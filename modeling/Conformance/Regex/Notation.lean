import Conformance.Regex.Expr

/-!
# How patterns are written

Flags, the ways a text can fail to be a pattern, escaping of literal text, and the small pieces of notation
that the readers of classes and of whole patterns share.
-/
namespace Conformance.Regex

/-- What the flags `i`, `m`, `s`, `u`, `R` and `x` have set at a place in a pattern. The flag `U`
prefers shorter matches and changes nothing here. -/
structure Flags where
  ignoreCase : Bool := false
  multiLine : Bool := false
  dotAll : Bool := false
  unicode : Bool := true
  crlf : Bool := false
  verbose : Bool := false
  deriving DecidableEq, Repr

/-- Why a text is not a pattern. -/
inductive Fault where
  | unclosedGroup
  | unopenedGroup
  | unsupportedGroup
  | flag
  | captureName
  | repeatedCaptureName
  | nothingToRepeat
  | count
  | unclosedClass
  | classRange
  | classMember
  | escape
  | codePoint
  | property
  /-- Something that needs Unicode where it is switched off. -/
  | needsUnicode
  | stuck
  deriving DecidableEq, Repr

/-- The characters with a meaning of their own. -/
def isMeta (c : Char) : Bool :=
  "\\.+*?()|[]\x7b\x7d^$#&-~".toList.contains c

/-- Literal text as a pattern that matches exactly it. -/
def escapeList : List Char → List Char
  | [] => []
  | c :: s => if isMeta c then '\\' :: c :: escapeList s else c :: escapeList s

def escape (s : String) : String :=
  String.ofList (escapeList s.toList)

/-- Drops the backslash of every pair of a backslash and another character. -/
def unescapeList : List Char → List Char
  | [] => []
  | ['\\'] => ['\\']
  | '\\' :: c :: s => c :: unescapeList s
  | c :: s => c :: unescapeList s

def unescape (s : String) : String :=
  String.ofList (unescapeList s.toList)

/-- The rest of a text after the line it is in. -/
def dropLine : List Char → List Char
  | [] => []
  | c :: s => if c == '\n' then s else dropLine s

theorem length_dropLine (s : List Char) : (dropLine s).length ≤ s.length := by
  induction s with
  | nil => simp [dropLine]
  | cons c s ih =>
    simp only [dropLine]
    split
    · simp
    · simp only [List.length_cons]; omega

/-- In verbose notation blanks and comments count for nothing. -/
def skipVerbose (s : List Char) : List Char :=
  match s with
  | [] => []
  | c :: rest =>
    if Text.isBlank c then skipVerbose rest
    else if c == '#' then skipVerbose (dropLine rest)
    else s
termination_by s.length
decreasing_by
  · simp
  · have := length_dropLine rest
    simp only [List.length_cons]; omega

theorem length_skipVerbose (s : List Char) : (skipVerbose s).length ≤ s.length := by
  fun_induction skipVerbose s with
  | case1 => simp
  | case2 c rest _ ih => simp only [List.length_cons]; omega
  | case3 c rest _ _ ih =>
    have := length_dropLine rest
    simp only [List.length_cons]; omega
  | case4 => simp

namespace Flags

def skip (flags : Flags) (s : List Char) : List Char :=
  if flags.verbose then skipVerbose s else s

theorem length_skip (flags : Flags) (s : List Char) : (flags.skip s).length ≤ s.length := by
  unfold skip; split
  · exact length_skipVerbose s
  · simp

end Flags

/-- The decimal digits that come first; verbose notation may stretch them. -/
def takeDigits (flags : Flags) (s : List Char) : List Char × List Char :=
  match s with
  | [] => ([], [])
  | c :: rest =>
    if c.isDigit then
      let (digits, left) := takeDigits flags (flags.skip rest)
      (c :: digits, left)
    else ([], s)
termination_by s.length
decreasing_by
  have := flags.length_skip rest
  simp only [List.length_cons]; omega

def decimalValue (digits : List Char) : Nat :=
  digits.foldl (fun n c => 10 * n + (c.toNat - '0'.toNat)) 0

/-- A count: digits with blanks around them, or `none` where there is no digit. -/
def readCount (flags : Flags) (s : List Char) : Except Fault (Option Nat × List Char) :=
  let (digits, rest) := takeDigits flags (s.dropWhile Text.isBlank)
  let rest := flags.skip (rest.dropWhile Text.isBlank)
  if digits.isEmpty then .ok (none, rest)
  else if decimalValue digits < 4294967296 then .ok (some (decimalValue digits), rest)
  else .error .count

end Conformance.Regex
