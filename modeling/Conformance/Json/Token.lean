import Conformance.Json.Value
import Conformance.Text.Bytes
import Conformance.Unicode.Ranges

/-!
# Tokens of JSON text

Brackets, commas and colons, and the values that hold no others. Cutting bytes into tokens looks at
one byte at a time: it is a character, or a part of one, which can stand in strings only. Whether the
bytes of a string are text shows when it ends.
-/
namespace Conformance.Json

inductive Token where
  | openObject | closeObject | openArray | closeArray | colon | comma
  | scalar (v : Value)
  deriving Repr

/-- A part of a string: a character, a byte of a longer one, or a code unit from an escape. -/
inductive Unit where
  | char (c : Char)
  | byte (b : UInt8)
  | code (n : Nat)
  deriving DecidableEq, Repr

/-- Joins the two halves of each pair of surrogates; a half that stands alone is no text. -/
def joinUnits : List Unit → Option (List UInt8)
  | [] => some []
  | .char c :: us => (joinUnits us).map (String.utf8EncodeChar c ++ ·)
  | .byte b :: us => (joinUnits us).map (b :: ·)
  | .code high :: .code low :: us =>
    if 0xD800 ≤ high ∧ high < 0xDC00 ∧ 0xDC00 ≤ low ∧ low < 0xE000 then
      let c := Char.ofNat (0x10000 + (high - 0xD800) * 0x400 + (low - 0xDC00))
      (joinUnits us).map (String.utf8EncodeChar c ++ ·)
    else if 0xD800 ≤ high ∧ high < 0xE000 then none
    else (joinUnits (.code low :: us)).map (String.utf8EncodeChar (Char.ofNat high) ++ ·)
  | .code n :: us =>
    if 0xD800 ≤ n ∧ n < 0xE000 then none
    else (joinUnits us).map (String.utf8EncodeChar (Char.ofNat n) ++ ·)

def stringOfUnits (units : List Unit) : Value :=
  match (joinUnits units).bind Text.ofBytes? with
  | some s => .string s
  | none => .illFormed

/-- Digits from the first on: one zero, or any number without a zero in front. -/
def isWholeNumber (s : List Char) : Bool :=
  s == ['0'] || (!s.isEmpty && s.head? != some '0' && s.all Char.isDigit)

def isDigits (s : List Char) : Bool :=
  !s.isEmpty && s.all Char.isDigit

/-- An exponent, after its letter. -/
def isExponent : List Char → Bool
  | '+' :: s | '-' :: s => isDigits s
  | s => isDigits s

def isExponentSign (c : Char) : Bool :=
  c == 'e' || c == 'E'

/-- A sign, a whole number, a fraction and an exponent, of which only the number must be there. -/
def isNumber (s : List Char) : Bool :=
  let s := match s with
    | '-' :: s => s
    | s => s
  let mantissa := s.takeWhile (!isExponentSign ·)
  let whole := mantissa.takeWhile (· != '.')
  let fraction := mantissa.dropWhile (· != '.')
  let power := s.dropWhile (!isExponentSign ·)
  isWholeNumber whole && (fraction.isEmpty || isDigits (fraction.drop 1)) &&
    (power.isEmpty || isExponent (power.drop 1))

/-- The value that a run of letters, digits, signs and points denotes. -/
def bare? (s : List Char) : Option Value :=
  if s == "null".toList then some .null
  else if s == "true".toList then some (.bool true)
  else if s == "false".toList then some (.bool false)
  else if isNumber s then some (.number (String.ofList s))
  else none

def isBlank (c : Char) : Bool :=
  c == ' ' || c == '\n' || c == '\t' || c == '\r'

def isBare (c : Char) : Bool :=
  c.isAlphanum || c == '+' || c == '-' || c == '.'

def mark? (c : Char) : Option Token :=
  match c with
  | '\x7b' => some .openObject
  | '\x7d' => some .closeObject
  | '[' => some .openArray
  | ']' => some .closeArray
  | ':' => some .colon
  | ',' => some .comma
  | _ => none

/-- What a letter after a backslash stands for. -/
def escaped? (c : Char) : Option Char :=
  match c with
  | '"' => some '"'
  | '\\' => some '\\'
  | '/' => some '/'
  | 'b' => some '\x08'
  | 'f' => some '\x0C'
  | 'n' => some '\n'
  | 'r' => some '\r'
  | 't' => some '\t'
  | _ => none

/-- Where in the bytes the cutting is. What has been read of a token is in reverse. -/
inductive Place where
  | between
  | bare (sofar : List Char)
  | string (sofar : List Unit)
  | escape (sofar : List Unit)
  /-- In an escape with `missing` more hexadecimal digits to come. -/
  | code (sofar : List Unit) (missing value : Nat)
  deriving DecidableEq, Repr

def bareToken (sofar : List Char) : Option Token :=
  (bare? sofar.reverse).map .scalar

/-- Reads a character that is not inside a token. -/
def readBetween (c : Char) : Option (List Token × Place) :=
  if isBlank c then some ([], .between)
  else if c == '"' then some ([], .string [])
  else if isBare c then some ([], .bare [c])
  else (mark? c).map fun t => ([t], .between)

/-- Reads a character, which may complete tokens. -/
def read (place : Place) (c : Char) : Option (List Token × Place) :=
  match place with
  | .between => readBetween c
  | .bare sofar =>
    if isBare c then some ([], .bare (c :: sofar))
    else do
      let t ← bareToken sofar
      let (ts, next) ← readBetween c
      return (t :: ts, next)
  | .string sofar =>
    if c == '"' then some ([.scalar (stringOfUnits sofar.reverse)], .between)
    else if c == '\\' then some ([], .escape sofar)
    else if c.toNat < 0x20 then none
    else some ([], .string (.char c :: sofar))
  | .escape sofar =>
    if c == 'u' then some ([], .code sofar 4 0)
    else (escaped? c).map fun d => ([], .string (.char d :: sofar))
  | .code sofar missing value =>
    (Unicode.hexDigit? c).map fun d =>
      if missing ≤ 1 then ([], .string (.code (16 * value + d) :: sofar))
      else ([], .code sofar (missing - 1) (16 * value + d))

/-- Reads a byte. -/
def readByte (place : Place) (b : UInt8) : Option (List Token × Place) :=
  if b < 0x80 then read place (Char.ofNat b.toNat)
  else match place with
    | .string sofar => some ([], .string (.byte b :: sofar))
    | _ => none

/-- Reads the end. -/
def readEnd : Place → Option (List Token)
  | .between => some []
  | .bare sofar => (bareToken sofar).map ([·])
  | _ => none

def tokensFrom (place : Place) : List UInt8 → Option (List Token)
  | [] => readEnd place
  | b :: bytes => do
    let (ts, next) ← readByte place b
    return ts ++ (← tokensFrom next bytes)

def tokens (bytes : List UInt8) : Option (List Token) :=
  tokensFrom .between bytes

end Conformance.Json
