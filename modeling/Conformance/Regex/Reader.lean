import Conformance.Regex.Class

/-!
# Reading patterns

A pattern is read from left to right. Open groups form a stack of levels; a level keeps the finished
branches and the pieces of the branch in progress, and a closing parenthesis turns the innermost
level into one piece of the level around it.
-/
namespace Conformance.Regex

/-- A part of a branch, with the nesting depth of its notation. A flag directive such as `(?i)` is a
part too, but nothing to repeat. -/
structure Piece where
  expr : Expr
  depth : Nat
  isDirective : Bool := false
  deriving DecidableEq, Repr

/-- One level of grouping. Branches and pieces are in reverse. -/
structure Level where
  flags : Flags
  branches : List Piece
  pieces : List Piece
  deriving DecidableEq, Repr

/-- What has been read: the innermost level, the levels around it, and the names of groups. -/
structure Reading where
  level : Level
  outer : List Level
  names : List String
  deriving DecidableEq, Repr

def maxDepth (pieces : List Piece) : Nat :=
  (pieces.map Piece.depth).foldl max 0

/-- Pieces in reverse, one after the other. -/
def joinPieces : List Piece → Piece
  | [] => ⟨.empty, 0, false⟩
  | [p] => p
  | ps => ⟨.ofSeq (ps.reverse.map Piece.expr), 1 + maxDepth ps, false⟩

/-- Branches in reverse, one or the other. -/
def joinBranches : List Piece → Piece
  | [p] => p
  | ps => ⟨.ofAlt (ps.reverse.map Piece.expr), 1 + maxDepth ps, false⟩

namespace Level

def start (flags : Flags) : Level :=
  ⟨flags, [], []⟩

def push (l : Level) (p : Piece) : Level :=
  { l with pieces := p :: l.pieces }

def add (l : Level) (e : Expr) : Level :=
  l.push ⟨e, 0, false⟩

/-- The level as one piece. -/
def close (l : Level) : Piece :=
  joinBranches (joinPieces l.pieces :: l.branches)

def nextBranch (l : Level) : Level :=
  { l with branches := joinPieces l.pieces :: l.branches, pieces := [] }

/-- Repeats the last piece. -/
def repeatLast (l : Level) (least : Nat) (most : Option Nat) : Except Fault Level :=
  match l.pieces with
  | [] => .error .nothingToRepeat
  | p :: ps =>
    if p.isDirective then .error .nothingToRepeat
    else .ok { l with pieces := ⟨p.expr.repeated least most, p.depth + 1, false⟩ :: ps }

/-- A character that stands for itself. -/
def addChar (l : Level) (c : Char) : Level :=
  l.add <| .chars <|
    if l.flags.ignoreCase then
      if l.flags.unicode then .folded (.only c)
      else if c.isAlpha then .inter (.folded (.only c)) .ascii
      else .only c
    else .only c

def addAtom (l : Level) : Atom → Level
  | .char c => l.addChar c
  | .set members => l.add (.chars members)
  | .look condition => l.add (.look condition)

/-- A full stop: any character, or any but those that end lines. -/
def addAny (l : Level) : Except Fault Level :=
  if !l.flags.unicode then .error .needsUnicode
  else .ok <| l.add <| .chars <|
    if l.flags.dotAll then .any
    else if l.flags.crlf then .compl (.union (.only '\n') (.only '\r'))
    else .compl (.only '\n')

def lineLook (l : Level) (atLine : Bool → Look) (atText : Look) : Expr :=
  .look (if l.flags.multiLine then atLine l.flags.crlf else atText)

end Level

/-- The flags after a list of flag letters, with what follows the list. No letter and no hyphen may
come twice, and a hyphen needs a letter after it. -/
def readFlags (flags : Flags) (seen : List Char) : List Char → Except Fault (Flags × List Char)
  | [] => .error .flag
  | c :: s =>
    if c == ':' || c == ')' then
      if seen.head? == some '-' then .error .flag else .ok (flags, c :: s)
    else if seen.contains c then .error .flag
    else
      let on := !seen.contains '-'
      let onward := fun flags => readFlags flags (c :: seen) s
      match c with
      | '-' | 'U' => onward flags
      | 'i' => onward { flags with ignoreCase := on }
      | 'm' => onward { flags with multiLine := on }
      | 's' => onward { flags with dotAll := on }
      | 'u' => onward { flags with unicode := on }
      | 'R' => onward { flags with crlf := on }
      | 'x' => onward { flags with verbose := on }
      | _ => .error .flag

def isNameStart (c : Char) : Bool :=
  c == '_' || Unicode.isAlphabetic c

def isNamePart (c : Char) : Bool :=
  isNameStart c || c == '.' || c == '[' || c == ']' || Unicode.isNumeric c

/-- The name of a group, up to its closing angle bracket. -/
def readName (s : List Char) : Except Fault (String × List Char) :=
  match s.takeWhile (· != '>'), s.dropWhile (· != '>') with
  | c :: cs, _ :: rest =>
    if isNameStart c && cs.all isNamePart then .ok (String.ofList (c :: cs), rest)
    else .error .captureName
  | _, _ => .error .captureName

namespace Reading

def start : Reading :=
  ⟨.start {}, [], []⟩

def withLevel (r : Reading) (l : Level) : Reading :=
  { r with level := l }

def openGroup (r : Reading) (flags : Flags) : Reading :=
  { r with level := .start flags, outer := r.level :: r.outer }

def closeGroup (r : Reading) : Except Fault Reading :=
  match r.outer with
  | [] => .error .unopenedGroup
  | l :: ls =>
    let inside := r.level.close
    .ok { r with level := l.push ⟨inside.expr, inside.depth + 1, false⟩, outer := ls }

def openNamed (r : Reading) (s : List Char) : Except Fault (Reading × List Char) := do
  let (name, rest) ← readName s
  return ({ r.openGroup r.level.flags with names := name :: r.names }, rest)

/-- Reads flags, for a group that opens with them or for the rest of the group around them. -/
def readFlagged (r : Reading) (s : List Char) : Except Fault (Reading × List Char) := do
  let (inside, rest) ← readFlags r.level.flags [] s
  if s.head? == some ')' then throw .nothingToRepeat
  match rest with
  | ')' :: rest =>
    return (r.withLevel { r.level with
      flags := inside, pieces := ⟨.empty, 0, true⟩ :: r.level.pieces }, rest)
  | _ => return (r.openGroup inside, rest.drop 1)

/-- Reads what follows an opening parenthesis and a question mark. -/
def readKind (r : Reading) (s : List Char) : Except Fault (Reading × List Char) :=
  match s with
  | '=' :: _ | '!' :: _ | '<' :: '=' :: _ | '<' :: '!' :: _ => .error .unsupportedGroup
  | 'P' :: '<' :: s => r.openNamed s
  | '<' :: s => r.openNamed s
  | s => r.readFlagged s

/-- Reads what follows an opening parenthesis: a kind of group, or a flag directive. -/
def readGroup (r : Reading) (s : List Char) : Except Fault (Reading × List Char) :=
  match r.level.flags.skip s with
  | '?' :: s => r.readKind s
  | s => .ok (r.openGroup r.level.flags, s)

/-- Reads the greatest count of a repetition. -/
def readLimit (flags : Flags) (least : Option Nat) (s : List Char) :
    Except Fault ((Option Nat × Option Nat) × List Char) := do
  let (most, s) ← readCount flags s
  match most with
  | none => throw .count
  | some m => return ((least, some m), s)

/-- Reads what follows the least count of a repetition: a comma and the greatest count, a comma
alone, or nothing. -/
def readMost (flags : Flags) (least : Option Nat) (s : List Char) :
    Except Fault ((Option Nat × Option Nat) × List Char) :=
  match s with
  | ',' :: s =>
    match flags.skip s with
    | '\x7d' :: _ => .ok ((least, none), flags.skip s)
    | s => readLimit flags least s
  | s => .ok ((least, least), s)

/-- Reads the counts of a repetition after its opening brace. -/
def readCounts (flags : Flags) (s : List Char) : Except Fault (Nat × Option Nat × List Char) := do
  let (least, s) ← readCount flags (flags.skip s)
  let (counts, s) ← readMost flags least s
  match counts, s with
  | (some least, most), '\x7d' :: s =>
    if most.all (least ≤ ·) then return (least, most, s) else throw .count
  | _, _ => throw .count

/-- Repeats the last piece; a question mark behind the sign asks for few rounds rather than many. -/
def repeatLast (r : Reading) (least : Nat) (most : Option Nat) (s : List Char) :
    Except Fault (Reading × List Char) := do
  let l ← r.level.repeatLast least most
  match s with
  | '?' :: rest => return (r.withLevel l, rest)
  | s => return (r.withLevel l, s)

/-- Reads on from the character `c`. -/
def step (r : Reading) (c : Char) (s : List Char) : Except Fault (Reading × List Char) :=
  let l := r.level
  match c with
  | '(' => r.readGroup s
  | ')' => do return (← r.closeGroup, s)
  | '|' => .ok (r.withLevel l.nextBranch, s)
  | '[' => do
    let (set, depth, rest) ← readClass l.flags s
    return (r.withLevel (l.push ⟨.chars set, depth, false⟩), rest)
  | '?' => r.repeatLast 0 (some 1) s
  | '*' => r.repeatLast 0 none s
  | '+' => r.repeatLast 1 none s
  | '\x7b' => do
    let (least, most, rest) ← readCounts l.flags s
    r.repeatLast least most (l.flags.skip rest)
  | '\\' => do
    let (atom, rest) ← readEscape l.flags s
    return (r.withLevel (l.addAtom atom), rest)
  | '.' => do return (r.withLevel (← l.addAny), s)
  | '^' => .ok (r.withLevel (l.add (l.lineLook .lineStart .textStart)), s)
  | '$' => .ok (r.withLevel (l.add (l.lineLook .lineEnd .textEnd)), s)
  | _ => .ok (r.withLevel (l.addChar c), s)

/-- Reads all of `s`. -/
def readAll (r : Reading) (s : List Char) : Except Fault Reading :=
  match h : r.level.flags.skip s with
  | [] => .ok r
  | c :: rest => do
    have : rest.length < s.length := by
      have := r.level.flags.length_skip s
      rw [h, List.length_cons] at this
      omega
    let (next, left) ← r.step c rest
    if left.length ≤ rest.length then next.readAll left else throw .stuck
termination_by s.length

/-- The expression of a pattern that has been read to its end. -/
def finish (r : Reading) : Except Fault Piece :=
  if r.outer.isEmpty then .ok r.level.close else .error .unclosedGroup

end Reading
end Conformance.Regex
