import Conformance.Regex.Escaped

/-!
# Bracketed classes

A class lists members between brackets: characters, ranges, escapes, named classes such as
`[:alpha:]`, classes within classes, and two classes joined by `&&`, `--` or `~~`. The joining signs
bind equally, from the left.
-/
namespace Conformance.Regex

inductive SetSign where
  | both | less | differing
  deriving DecidableEq, Repr

/-- A class that is being read: its members so far, in reverse, and what stands to the left of the
last joining sign. -/
structure OpenClass where
  negated : Bool
  joined : Option (SetSign × CharSet × Nat)
  members : List (CharSet × Nat)

/-- Where Unicode is off, only ASCII characters may be members. -/
def memberChar (flags : Flags) (c : Char) : Except Fault Unit :=
  if !flags.unicode && c.toNat > 0x7F then .error .needsUnicode else .ok ()

namespace OpenClass

/-- What stands to the right of the last joining sign, with its nesting depth. -/
def united (k : OpenClass) : CharSet × Nat :=
  match k.members with
  | [] => (.empty, 0)
  | [m] => m
  | ms => (.ofList (ms.reverse.map Prod.fst), 1 + (ms.map Prod.snd).foldl max 0)

def foldedIf (flags : Flags) (set : CharSet) : CharSet :=
  if flags.ignoreCase then
    if flags.unicode then .folded set else .inter (.folded set) .ascii
  else set

/-- Everything read so far as one set. -/
def whole (flags : Flags) (k : OpenClass) : CharSet × Nat :=
  let (right, depth) := k.united
  match k.joined with
  | none => (right, depth)
  | some (sign, left, leftDepth) =>
    let a := foldedIf flags left
    let b := foldedIf flags right
    let set := match sign with
      | .both => .inter a b
      | .less => .diff a b
      | .differing => .symmetricDiff a b
    (set, 1 + max leftDepth depth)

def push (k : OpenClass) (set : CharSet) (depth : Nat := 0) : OpenClass :=
  { k with members := (set, depth) :: k.members }

def join (flags : Flags) (k : OpenClass) (sign : SetSign) : OpenClass :=
  let (left, depth) := k.whole flags
  { k with joined := some (sign, left, depth), members := [] }

end OpenClass

/-- The named classes. -/
def namedClass? (name : List Char) : Option CharSet :=
  match String.ofList name with
  | "alnum" => some (.ofList [.range '0' '9', .range 'A' 'Z', .range 'a' 'z'])
  | "alpha" => some (.ofList [.range 'A' 'Z', .range 'a' 'z'])
  | "ascii" => some (.range '\x00' '\x7F')
  | "blank" => some (.ofList [.only '\t', .only ' '])
  | "cntrl" => some (.ofList [.range '\x00' '\x1F', .only '\x7F'])
  | "digit" => some asciiDigits
  | "graph" => some (.range '!' '~')
  | "lower" => some (.range 'a' 'z')
  | "print" => some (.range ' ' '~')
  | "punct" => some (.ofList [.range '!' '/', .range ':' '@', .range '[' '\x60', .range '\x7b' '~'])
  | "space" => some asciiBlanks
  | "upper" => some (.range 'A' 'Z')
  | "word" => some asciiWords
  | "xdigit" => some (.ofList [.range '0' '9', .range 'A' 'F', .range 'a' 'f'])
  | _ => none

/-- The name of a class, up to its closing colon and bracket. -/
def readClassName? (negated : Bool) (s : List Char) : Option (Bool × CharSet × List Char) :=
  match s.dropWhile (· != ':') with
  | ':' :: ']' :: rest =>
    (namedClass? (s.takeWhile (· != ':'))).map fun set => (negated, set, rest)
  | _ => none

/-- A named class, without its opening bracket: whether it is negated, its set, and the rest. -/
def readNamed? (s : List Char) : Option (Bool × CharSet × List Char) :=
  match s with
  | ':' :: '^' :: s => readClassName? true s
  | ':' :: s => readClassName? false s
  | _ => none

/-- Hyphens that come first, how many and what follows them. -/
def hyphens (flags : Flags) : Nat → List Char → Nat × List Char
  | n + 1, '-' :: s => let (k, rest) := hyphens flags n (flags.skip s); (k + 1, rest)
  | _, s => (0, s)

/-- Hyphens, or else a closing bracket, that come first in a class are members of it. -/
def openMembers (flags : Flags) (negated : Bool) (s : List Char) : OpenClass × List Char :=
  match hyphens flags s.length s with
  | (0, ']' :: s) => (⟨negated, none, [(.only ']', 0)]⟩, flags.skip s)
  | (count, s) => (⟨negated, none, List.replicate count (.only '-', 0)⟩, s)

/-- The start of a class after its opening bracket: a circumflex, and the members that only count as
such where they come first. -/
def openClass (flags : Flags) (s : List Char) : OpenClass × List Char :=
  match flags.skip s with
  | '^' :: s => openMembers flags true (flags.skip s)
  | s => openMembers flags false s

/-- The character that comes next, not counting what verbose notation passes over. A comment is not
passed over beyond its sign. -/
def peekPast (flags : Flags) (s : List Char) : Option Char :=
  if flags.verbose then
    match s.dropWhile Text.isBlank with
    | '#' :: t => (t.dropWhile Text.isBlank).head?.or s.head?
    | [] => s.head?
    | c :: _ => some c
  else s.head?

/-- One member of a class: an escape, or a character that stands for itself. -/
def readItem (flags : Flags) : List Char → Except Fault (Atom × List Char)
  | [] => .error .unclosedClass
  | '\\' :: s => readEscape flags s
  | c :: s => .ok (.char c, s)

/-- A member by itself. -/
def memberSet (flags : Flags) : Atom → Except Fault CharSet
  | .char a => do
    memberChar flags a
    return .only a
  | .set members => .ok members
  | .look _ => .error .classMember

/-- The range from one member to another. -/
def rangeSet (flags : Flags) : Atom → Atom → Except Fault CharSet
  | .char a, .char b => do
    memberChar flags a
    memberChar flags b
    if a ≤ b then return .range a b else throw .classRange
  | _, _ => .error .classRange

/-- What is listed by a member that has been read: the range up to another member if a hyphen follows
it, else itself. -/
def readRange (flags : Flags) (first : Atom) (s : List Char) : Except Fault (CharSet × List Char) :=
  match flags.skip s with
  | [] => .error .unclosedClass
  | c :: after =>
    let next := peekPast flags after
    if c != '-' || next == some ']' || next == some '-' then do
      let set ← memberSet flags first
      return (set, c :: after)
    else do
      let (last, rest) ← readItem flags (flags.skip after)
      let set ← rangeSet flags first last
      return (set, rest)

/-- One member, or a range of characters from one member to another. -/
def readMember (flags : Flags) (s : List Char) : Except Fault (CharSet × List Char) := do
  let (first, rest) ← readItem flags s
  readRange flags first rest

/-- Where the reading of a class has come to. -/
inductive ClassReading where
  /-- Within open classes, the innermost first. -/
  | within (inner : OpenClass) (outer : List OpenClass)
  /-- At the end of the outermost class, with its set and its nesting depth. -/
  | done (set : CharSet) (depth : Nat)

/-- Reads on from the character `c` within open classes. -/
def readOn (flags : Flags) (inner : OpenClass) (outer : List OpenClass) (c : Char)
    (s : List Char) : Except Fault (ClassReading × List Char) :=
  if c == '[' then
    match readNamed? s with
    | some (negated, set, rest) => do
      let set ← adjust flags negated set
      return (.within (inner.push set) outer, rest)
    | none =>
      let (k, rest) := openClass flags s
      .ok (.within k (inner :: outer), rest)
  else if c == ']' then do
    let (set, depth) := inner.whole flags
    let set ← adjust flags inner.negated set
    match outer with
    | [] => return (.done set (depth + 1), s)
    | k :: ks => return (.within (k.push set (depth + 1)) ks, s)
  else if c == '&' && s.head? == some '&' then
    .ok (.within (inner.join flags .both) outer, s.drop 1)
  else if c == '-' && s.head? == some '-' then
    .ok (.within (inner.join flags .less) outer, s.drop 1)
  else if c == '~' && s.head? == some '~' then
    .ok (.within (inner.join flags .differing) outer, s.drop 1)
  else do
    let (set, rest) ← readMember flags (c :: s)
    return (.within (inner.push set) outer, rest)

/-- Reads on within the open classes up to the end of the outermost. The result is the set, its
nesting depth, and the rest. -/
def readMembers (flags : Flags) (inner : OpenClass) (outer : List OpenClass) (s : List Char) :
    Except Fault (CharSet × Nat × List Char) :=
  match h : flags.skip s with
  | [] => .error .unclosedClass
  | c :: rest => do
    have : rest.length < s.length := by
      have := flags.length_skip s
      rw [h, List.length_cons] at this
      omega
    let (reading, left) ← readOn flags inner outer c rest
    match reading with
    | .done set depth => return (set, depth, left)
    | .within inner outer =>
      if left.length ≤ rest.length then readMembers flags inner outer left else throw .stuck
termination_by s.length
decreasing_by all_goals omega

/-- Reads a class after its opening bracket. -/
def readClass (flags : Flags) (s : List Char) : Except Fault (CharSet × Nat × List Char) :=
  let (k, rest) := openClass flags s
  readMembers flags k [] rest

end Conformance.Regex
