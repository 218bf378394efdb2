import Conformance.Regex.Notation

/-!
# Escapes

What a backslash and the characters after it stand for.
-/
namespace Conformance.Regex

/-- The meaning of an escape. -/
inductive Atom where
  | char (c : Char)
  | set (members : CharSet)
  | look (condition : Look)
  deriving DecidableEq, Repr

/-- What stands before the next closing brace, and the text after that brace. -/
def takeBraced (flags : Flags) (s : List Char) : Option (List Char × List Char) :=
  match s with
  | [] => none
  | c :: rest =>
    if c == '\x7d' then some ([], rest)
    else (takeBraced flags (flags.skip rest)).map fun (inside, left) => (c :: inside, left)
termination_by s.length
decreasing_by
  have := flags.length_skip rest
  simp only [List.length_cons]; omega

/-- Exactly `n` hexadecimal digits. -/
def takeHex (flags : Flags) : Nat → List Char → Option (List Char × List Char)
  | 0, s => some ([], s)
  | _ + 1, [] => none
  | n + 1, c :: s =>
    if (Unicode.hexDigit? c).isSome then
      (takeHex flags n (flags.skip s)).map fun (digits, left) => (c :: digits, left)
    else none

def charOfCode? (n : Nat) : Option Char :=
  if h : n.isValidChar then some (Char.ofNatAux n h) else none

/-- The digits of a code point after `\x`, `\u` or `\U`, in braces or as many as `width`, and whether
they may name a byte. -/
def takeCode (flags : Flags) (width : Nat) (s : List Char) :
    Except Fault ((List Char × Bool) × List Char) :=
  match flags.skip s with
  | '\x7b' :: s =>
    match takeBraced flags (flags.skip s) with
    | some (digits, rest) => .ok ((digits, false), rest)
    | none => .error .escape
  | s =>
    match takeHex flags width s with
    | some (digits, rest) => .ok ((digits, width == 2), rest)
    | none => .error .escape

/-- The character with the code point that the digits write. Two digits beyond ASCII name a byte,
not a character, where Unicode is off. -/
def charOfDigits (flags : Flags) (digits : List Char) (isByte : Bool) : Except Fault Char :=
  if digits.isEmpty || digits.any (fun c => (Unicode.hexDigit? c).isNone) then .error .escape
  else match charOfCode? (Unicode.hexValue digits) with
    | none => .error .codePoint
    | some c =>
      if isByte && !flags.unicode && c.toNat > 0x7F then .error .needsUnicode else .ok c

/-- The character with the code point written after `\x`, `\u` or `\U`. -/
def readCode (flags : Flags) (width : Nat) (s : List Char) : Except Fault (Atom × List Char) := do
  let ((digits, isByte), rest) ← takeCode flags width s
  let c ← charOfDigits flags digits isByte
  return (.char c, flags.skip rest)

/-- Splits a name at the first occurrence of `mark`. -/
def splitAtMark (mark : List Char) : List Char → Option (List Char × List Char)
  | [] => none
  | c :: s =>
    if mark.isPrefixOf (c :: s) then some ([], (c :: s).drop mark.length)
    else (splitAtMark mark s).map fun (before, after) => (c :: before, after)

/-- The property that stands in the braces of `\p`. -/
def propertyNamed? (name : List Char) : Option Unicode.Property :=
  match (splitAtMark ['!', '='] name).or ((splitAtMark [':'] name).or (splitAtMark ['='] name)) with
  | some (key, value) => Unicode.Property.ofNameAndValue? key value
  | none => Unicode.Property.ofName? name

/-- A set as it stands under the flags, negated or not. -/
def adjust (flags : Flags) (negated : Bool) (set : CharSet) : Except Fault CharSet :=
  if flags.unicode then
    let set := if flags.ignoreCase then .folded set else set
    .ok (if negated then .compl set else set)
  else if negated then .error .needsUnicode
  else .ok (if flags.ignoreCase then .inter (.folded set) .ascii else set)

/-- The name of a property after `\p` or `\P`, in braces or as one letter. -/
def takePropertyName (flags : Flags) (s : List Char) : Except Fault (List Char × List Char) :=
  match flags.skip s with
  | [] => .error .escape
  | '\x7b' :: s =>
    match takeBraced flags (flags.skip s) with
    | some found => .ok found
    | none => .error .escape
  | c :: s => if c == '\\' then .error .escape else .ok ([c], flags.skip s)

def propertySet (flags : Flags) (negated : Bool) (name : List Char) : Except Fault CharSet :=
  if !flags.unicode then .error .needsUnicode
  else match propertyNamed? name with
    | none => .error .property
    | some p => adjust flags negated (.property p)

/-- The class after `\p` or `\P`. -/
def readProperty (flags : Flags) (negated : Bool) (s : List Char) :
    Except Fault (Atom × List Char) := do
  let (name, rest) ← takePropertyName flags s
  let set ← propertySet flags negated name
  return (.set set, rest)

def asciiDigits : CharSet :=
  .range '0' '9'

def asciiBlanks : CharSet :=
  .ofList [.range '\t' '\r', .only ' ']

def asciiWords : CharSet :=
  .ofList [.range '0' '9', .range 'A' 'Z', .range 'a' 'z', .only '_']

/-- The classes `\d`, `\s` and `\w`, and their complements under capital letters. Case does not
matter to them. -/
def shorthand (flags : Flags) (letter : Char) : Except Fault CharSet :=
  let set := match letter.toLower with
    | 'd' => if flags.unicode then .property .digit else asciiDigits
    | 's' => if flags.unicode then .property .blank else asciiBlanks
    | _ => if flags.unicode then .property .word else asciiWords
  if letter.isUpper then if flags.unicode then .ok (.compl set) else .error .needsUnicode
  else .ok set

def isEdgeNameChar (c : Char) : Bool :=
  c.isAlpha || c == '-'

/-- The kinds of word boundary that have names. -/
def edgeNamed? (name : List Char) : Option WordEdge :=
  match String.ofList name with
  | "start" => some .start
  | "end" => some .finish
  | "start-half" => some .startHalf
  | "end-half" => some .finishHalf
  | _ => none

/-- After `\b`: braces with a letter first name a kind of word boundary, any others are left to be
read as a count. -/
def readWordEdge (flags : Flags) (s : List Char) : Except Fault (WordEdge × List Char) :=
  match s with
  | '\x7b' :: inside =>
    if (flags.skip inside).head?.any isEdgeNameChar then
      match takeBraced flags (flags.skip inside) with
      | none => .error .escape
      | some (name, rest) =>
        match edgeNamed? name with
        | some edge => .ok (edge, rest)
        | none => .error .escape
    else .ok (.either, s)
  | _ => .ok (.either, s)

/-- What one character after a backslash stands for. Any mark of ASCII may be escaped, letters and
digits only where that means something. -/
def escaped (flags : Flags) (c : Char) : Except Fault Atom :=
  let edge := fun kind => Atom.look (.wordEdge kind !flags.unicode)
  match c with
  | 'd' | 's' | 'w' | 'D' | 'S' | 'W' => do return .set (← shorthand flags c)
  | 'a' => .ok (.char '\x07')
  | 'f' => .ok (.char '\x0C')
  | 't' => .ok (.char '\t')
  | 'n' => .ok (.char '\n')
  | 'r' => .ok (.char '\r')
  | 'v' => .ok (.char '\x0B')
  | 'A' => .ok (.look .textStart)
  | 'z' => .ok (.look .textEnd)
  | 'B' => .ok (edge .neither)
  | '<' => .ok (edge .start)
  | '>' => .ok (edge .finish)
  | _ => if c.toNat < 128 && !c.isAlphanum then .ok (.char c) else .error .escape

/-- Reads what follows a backslash. -/
def readEscape (flags : Flags) : List Char → Except Fault (Atom × List Char)
  | [] => .error .escape
  | 'x' :: s => readCode flags 2 s
  | 'u' :: s => readCode flags 4 s
  | 'U' :: s => readCode flags 8 s
  | 'p' :: s => readProperty flags false s
  | 'P' :: s => readProperty flags true s
  | 'b' :: s => do
    let (kind, rest) ← readWordEdge flags s
    return (.look (.wordEdge kind !flags.unicode), rest)
  | c :: s => do
    let atom ← escaped flags c
    return (atom, s)

end Conformance.Regex
