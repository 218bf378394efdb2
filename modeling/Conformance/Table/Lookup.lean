import Conformance.Catalog
import Conformance.Table.Record

/-!
# Lookup tables

A lookup table has two columns, a key and its value. Blank rows count for nothing, and of several
rows with one key the last one counts.
-/
namespace Conformance

/-- What is wrong with a table. -/
inductive TableError where
  /-- A row is not text. -/
  | undecodable
  | malformed (line found : Nat)
  | emptyKey (line : Nat)
  deriving DecidableEq, Repr

namespace TableError

/-- The message for the table called `name`, with `reason` for why a row is not text. -/
def message (name reason : String) : TableError → String
  | undecodable => "failed to parse table " ++ name ++ ": " ++ reason
  | malformed line found =>
    "table " ++ name ++ ", line " ++ toString line ++ ": expected 2 fields, found " ++
      toString found
  | emptyKey line => "table " ++ name ++ ", line " ++ toString line ++ ": empty key"

end TableError

namespace Table

/-- Adds a row to the table read so far. -/
def addRow (table : Catalog String) (row : Row) : Except TableError (Catalog String) :=
  match row.cells with
  | none => .error .undecodable
  | some cells =>
    if cells.all (·.isEmpty) then .ok table
    else match cells with
      | [key, value] =>
        if key.isEmpty then .error (.emptyKey row.line) else .ok (table.insert key value)
      | _ => .error (.malformed row.line cells.length)

def ofRows (rows : List Row) : Except TableError (Catalog String) :=
  rows.foldlM addRow .empty

def parse (bytes : List UInt8) : Except TableError (Catalog String) :=
  ofRows (rows bytes)

end Table
end Conformance
