import Conformance.Text.Blank
import Conformance.Text.Bytes

/-!
# Records of comma-separated text

A record ends at a line feed or a carriage return, and empty lines between records count for
nothing. A field that starts with a double quote runs to the closing one, in which two double quotes
stand for one; behind the closing quote, text goes on as in an unquoted field. At the end of the
text every open field and record ends.
-/
namespace Conformance.Table

/-- What the next byte belongs to. -/
inductive Place where
  | recordStart
  | fieldStart
  | plain
  | quoted
  /-- Just after a double quote inside a quoted field. -/
  | quoteSeen
  deriving DecidableEq, Repr

structure Record where
  /-- One more than the line feeds read when the record before it had ended. -/
  line : Nat
  fields : List (List UInt8)
  deriving DecidableEq, Repr

/-- A reading in progress; field and fields are in reverse. -/
structure Reading where
  place : Place
  field : List UInt8
  fields : List (List UInt8)
  startLine : Nat
  line : Nat

def comma : UInt8 := 44
def doubleQuote : UInt8 := 34
def lineFeed : UInt8 := 10
def carriageReturn : UInt8 := 13

namespace Reading

def start : Reading :=
  ⟨.recordStart, [], [], 1, 1⟩

def addByte (r : Reading) (b : UInt8) : Reading :=
  { r with place := .plain, field := b :: r.field }

def endField (r : Reading) : Reading :=
  { r with place := .fieldStart, field := [], fields := r.field.reverse :: r.fields }

def record (r : Reading) : Record :=
  ⟨r.startLine, (r.field.reverse :: r.fields).reverse⟩

/-- Reads one byte outside quotes; ending a record gives that record. -/
def readPlain (r : Reading) (b : UInt8) : Reading × Option Record :=
  if b == comma then (r.endField, none)
  else if b == lineFeed || b == carriageReturn then
    (⟨.recordStart, [], [], r.line, r.line⟩, some r.record)
  else (r.addByte b, none)

def read (r : Reading) (b : UInt8) : Reading × Option Record :=
  let r := if b == lineFeed then { r with line := r.line + 1 } else r
  match r.place with
  | .recordStart =>
    if b == lineFeed || b == carriageReturn then (r, none)
    else if b == doubleQuote then ({ r with place := .quoted }, none)
    else r.readPlain b
  | .fieldStart => if b == doubleQuote then ({ r with place := .quoted }, none) else r.readPlain b
  | .plain => r.readPlain b
  | .quoted =>
    if b == doubleQuote then ({ r with place := .quoteSeen }, none)
    else ({ r with field := b :: r.field }, none)
  | .quoteSeen =>
    if b == doubleQuote then ({ r with place := .quoted, field := b :: r.field }, none)
    else r.readPlain b

end Reading

def recordsFrom (r : Reading) : List UInt8 → List Record
  | [] => if r.place == .recordStart then [] else [r.record]
  | b :: bytes =>
    match r.read b with
    | (r, none) => recordsFrom r bytes
    | (r, some record) => record :: recordsFrom r bytes

/-- The records of a text; a byte order mark in front of it is no part of it. -/
def records (bytes : List UInt8) : List Record :=
  recordsFrom .start (if [0xEF, 0xBB, 0xBF].isPrefixOf bytes then bytes.drop 3 else bytes)

/-- A record with its fields as trimmed text, or without fields if they are no text. -/
structure Row where
  line : Nat
  cells : Option (List String)
  deriving DecidableEq, Repr

def Record.toRow (r : Record) : Row where
  line := r.line
  cells := (r.fields.mapM fun field => Text.ofBytes? (Text.trimBytes field)).map fun cells =>
    cells.map Text.trim

/-- The rows below the header. -/
def rows (bytes : List UInt8) : List Row :=
  ((records bytes).drop 1).map Record.toRow

end Conformance.Table
