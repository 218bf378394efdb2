import Conformance.Time.Moment
import Conformance.Toml.Value
import Conformance.Unicode.Ranges

/-!
# Unquoted TOML values

Truth values, numbers, and dates and times, each told by how it is written.
-/
namespace Conformance.Toml

/-! ## Numbers -/

def digit? (radix : Nat) (c : Char) : Option Nat :=
  (Unicode.hexDigit? c).filter (· < radix)

/-- The digits of a number, between any two of which there may be an underscore. -/
def digits? (radix : Nat) : List Char → Option (List Nat)
  | [] => none
  | [c] => (digit? radix c).map ([·])
  | c :: '_' :: s => do return (← digit? radix c) :: (← digits? radix s)
  | c :: s => do return (← digit? radix c) :: (← digits? radix s)

def valueOf (radix : Nat) (digits : List Nat) : Nat :=
  digits.foldl (fun n d => radix * n + d) 0

/-- Whether a number is negative, and what follows its sign. -/
def signed : List Char → Bool × List Char
  | '-' :: s => (true, s)
  | '+' :: s => (false, s)
  | s => (false, s)

/-- The decimal digits of a whole number, with no zero in front of others. -/
def wholeDigits? (s : List Char) : Option (List Nat) :=
  if s.head? == some '0' && s != ['0'] then none else digits? 10 s

/-- Integers have 64 bits. Only decimal ones have a sign. -/
def integer? (s : List Char) : Option Int :=
  let n : Option Int := match s with
    | '0' :: 'x' :: s => (digits? 16 s).map fun ds => valueOf 16 ds
    | '0' :: 'o' :: s => (digits? 8 s).map fun ds => valueOf 8 ds
    | '0' :: 'b' :: s => (digits? 2 s).map fun ds => valueOf 2 ds
    | s =>
      let (negative, s) := signed s
      (wholeDigits? s).map fun ds => if negative then -valueOf 10 ds else valueOf 10 ds
  n.filter fun n => -9223372036854775808 ≤ n && n < 9223372036854775808

/-- Whether `n * 10 ^ e` rounds to infinity, being at least half a unit above the greatest number of
double precision. -/
def overflows (n : Nat) (e : Int) : Bool :=
  let limit := Nat.pow 2 1024 - Nat.pow 2 970
  let places := (Nat.toDigits 10 n).length + e
  if places < 309 then false
  else if 309 < places then n != 0
  else if 0 ≤ e then limit ≤ n * Nat.pow 10 e.toNat
  else limit * Nat.pow 10 (-e).toNat ≤ n

def isExponentSign (c : Char) : Bool :=
  c == 'e' || c == 'E'

/-- The fraction of a number after its point, none of it if there is no point. -/
def fractionDigits? : List Char → Option (List Nat)
  | [] => some []
  | _ :: s => digits? 10 s

/-- The exponent of a number after its letter, zero if there is no letter. -/
def exponent? : List Char → Option Int
  | [] => some 0
  | _ :: s =>
    let (negative, s) := signed s
    (digits? 10 s).map fun ds => if negative then -valueOf 10 ds else valueOf 10 ds

/-- A decimal number with a fraction or an exponent. Too great a number is refused, but not one that
is too small. -/
def isDecimal (s : List Char) : Bool :=
  let (negative, s) := signed s
  let mantissa := s.takeWhile (!isExponentSign ·)
  let power := s.dropWhile (!isExponentSign ·)
  let whole := mantissa.takeWhile (· != '.')
  let fraction := mantissa.dropWhile (· != '.')
  match wholeDigits? whole, fractionDigits? fraction, exponent? power with
  | some ws, some fs, some e =>
    !(fraction.isEmpty && power.isEmpty) &&
      (negative || !overflows (valueOf 10 (ws ++ fs)) (e - fs.length))
  | _, _, _ => false

def isFloat (s : List Char) : Bool :=
  isDecimal s || ["inf".toList, "nan".toList].contains (signed s).2

/-! ## Dates and times -/

/-- Reads from the front of a text. -/
abbrev Reading := StateT (List Char) Option

/-- Reads a number of exactly this many digits. -/
def readNumber (width low high : Nat) : Reading Nat := fun s => do
  let digits := s.take width
  let n := valueOf 10 (← digits.mapM (digit? 10))
  if digits.length = width ∧ low ≤ n ∧ n ≤ high then return (n, s.drop width) else none

def readMark (mark : Char) : Reading Unit := fun s =>
  match s with
  | c :: s => if c == mark then some ((), s) else none
  | [] => none

def readDate : Reading Unit := do
  let year ← readNumber 4 0 9999
  readMark '-'
  let month ← readNumber 2 1 12
  readMark '-'
  let _ ← readNumber 2 1 (Moment.daysInMonth year month)

/-- Reads a fraction of a second, if there is one. -/
def readFraction : Reading Unit := fun s =>
  match s with
  | '.' :: s =>
    if (s.takeWhile Char.isDigit).isEmpty then none else some ((), s.dropWhile Char.isDigit)
  | s => some ((), s)

/-- Reads a time of day, where a minute may have 61 seconds. -/
def readTime : Reading Unit := do
  let _ ← readNumber 2 0 23
  readMark ':'
  let _ ← readNumber 2 0 59
  readMark ':'
  let _ ← readNumber 2 0 60
  readFraction

/-- Reads an offset from universal time, if there is one. -/
def readOffset : Reading Unit := fun s =>
  match s with
  | c :: s =>
    if c == 'Z' || c == 'z' then some ((), s)
    else if c == '+' || c == '-' then
      (do let _ ← readNumber 2 0 23; readMark ':'; let _ ← readNumber 2 0 59 : Reading Unit) s
    else none
  | [] => some ((), [])

def isAll (r : Reading Unit) (s : List Char) : Bool :=
  match r s with
  | some (_, []) => true
  | _ => false

/-- A date, a time of day, or a date and a time with an offset or without. -/
def isDate (s : List Char) : Bool :=
  match readDate s with
  | some (_, []) => true
  | some (_, c :: s) => (c == 'T' || c == 't' || c == ' ') && isAll (readTime *> readOffset) s
  | none => isAll readTime s

/-- The value that an unquoted text denotes. -/
def scalar? (text : String) : Option Value :=
  if text == "true" then some (.boolean true)
  else if text == "false" then some (.boolean false)
  else if isDate text.toList then some (.date text)
  else if isFloat text.toList then some (.float text)
  else (integer? text.toList).map .integer

end Conformance.Toml
