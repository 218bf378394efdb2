import Conformance.Unicode.Ranges

/-!
# Socket addresses

An address of version 4 or 6 of the Internet protocol, with the number of a service. Only whether a
text is one is of interest, so reading keeps what remains of the text and no values.
-/
namespace Conformance.Address

/-- Reads a decimal number up to `limit`. -/
def decimal? (limit : Nat) (s : List Char) : Option (List Char) :=
  let digits := s.takeWhile Char.isDigit
  let n := digits.foldl (fun n c => 10 * n + (c.toNat - '0'.toNat)) 0
  if digits.isEmpty || limit < n then none else some (s.dropWhile Char.isDigit)

/-- Reads a byte, which has no zero in front of other digits. -/
def byte? (s : List Char) : Option (List Char) :=
  let digits := s.takeWhile Char.isDigit
  if 3 < digits.length || (1 < digits.length && s.head? == some '0') then none
  else decimal? 255 s

/-- Reads this character. -/
def mark? (mark : Char) (s : List Char) : Option (List Char) :=
  if s.head? == some mark then some (s.drop 1) else none

/-- Reads four bytes between points. -/
def version4? (s : List Char) : Option (List Char) := do
  let s ← byte? (← mark? '.' (← byte? s))
  byte? (← mark? '.' (← byte? (← mark? '.' s)))

/-- Reads one to four hexadecimal digits. -/
def group? (s : List Char) : Option (List Char) :=
  let digits := s.takeWhile fun c => (Unicode.hexDigit? c).isSome
  if digits.isEmpty || 4 < digits.length then none else some (s.drop digits.length)

/-- Reads up to `room` groups between colons, where four bytes may stand for the last two. The
answer is how many were read, whether bytes were among them, and what remains. -/
def groups (colon : Bool) (s : List Char) : Nat → Nat × Bool × List Char
  | 0 => (0, false, s)
  | room + 1 =>
    match if colon then mark? ':' s else some s with
    | none => (0, false, s)
    | some start =>
      match if room = 0 then none else version4? start with
      | some rest => (2, true, rest)
      | none =>
        match group? start with
        | none => (0, false, s)
        | some rest =>
          let (count, bytes, rest) := groups true rest room
          (count + 1, bytes, rest)

/-- Reads eight groups, or fewer around two colons. -/
def version6? (s : List Char) : Option (List Char) := do
  let (count, bytes, s) := groups false s 8
  if count = 8 then return s
  if bytes then none
  let s ← mark? ':' (← mark? ':' s)
  return (groups false s (7 - count)).2.2

/-- Reads the number of a service after a colon. -/
def service? (s : List Char) : Option (List Char) := do
  decimal? 65535 (← mark? ':' s)

/-- Reads the number of a scope, if there is one. -/
def scope (s : List Char) : List Char :=
  ((mark? '%' s).bind (decimal? 4294967295)).getD s

def isSocket (text : String) : Bool :=
  let s := text.toList
  (version4? s).bind service? == some [] ||
    (((mark? '[' s).bind version6?).bind fun s => (mark? ']' (scope s)).bind service?) == some []

end Conformance.Address
