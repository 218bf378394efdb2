import Conformance.Toml.Value

/-!
# Tables under construction

Tables are filled entry by entry. What may be added to a table depends on what made it: a header,
the header of a table inside it, or a dotted key.
-/
namespace Conformance.Toml

inductive Origin where
  | header
  /-- A longer header runs through the table, and a header of its own may follow. -/
  | implied
  /-- A dotted key runs through the table, and only dotted keys add entries. -/
  | dotted
  deriving DecidableEq, Repr

inductive Node where
  | value (v : Value)
  | table (origin : Origin) (entries : List (String × Node))
  /-- The elements of an array of tables, of which the last one is being filled. -/
  | elements (tables : List (List (String × Node)))

/-- A table with all that is in it so far. -/
abbrev Draft := Origin × List (String × Node)

namespace Draft

def empty : Draft :=
  (.header, [])

/-- Puts a node under a key, in place of any node there. -/
def put (key : String) (node : Node) (d : Draft) : Draft :=
  (d.1, d.2.filter (·.1 != key) ++ [(key, node)])

/-- Changes the table at a path, making the tables on the way. The tables that a dotted key runs
through are made by dotted keys alone. -/
def change (dotted : Bool) (f : Draft → Option Draft) : List String → Draft → Option Draft
  | [], d => f d
  | key :: path, d =>
    match d.2.lookup key with
    | none => do
      let (origin, entries) ← change dotted f path (if dotted then .dotted else .implied, [])
      return d.put key (.table origin entries)
    | some (.value _) => none
    | some (.table origin entries) =>
      if dotted && origin == .header then none
      else do
        let (origin, entries) ← change dotted f path (origin, entries)
        return d.put key (.table origin entries)
    | some (.elements tables) => do
      let (_, entries) ← change dotted f path (.header, ← tables.getLast?)
      return d.put key (.elements (tables.dropLast ++ [entries]))

/-- Starts a table of its own. -/
def openTable (key : String) (d : Draft) : Option Draft :=
  match d.2.lookup key with
  | none => some (d.put key (.table .header []))
  | some (.table .implied entries) => some (d.put key (.table .header entries))
  | some _ => none

/-- Starts an element of an array of tables. -/
def openElement (key : String) (d : Draft) : Option Draft :=
  match d.2.lookup key with
  | none => some (d.put key (.elements [[]]))
  | some (.elements tables) => some (d.put key (.elements (tables ++ [[]])))
  | some _ => none

/-- Adds a value under a new key; `through` tells whether a dotted key led here. -/
def addValue (through : Bool) (key : String) (v : Value) (d : Draft) : Option Draft :=
  if (d.1 == .dotted) != through || (d.2.lookup key).isSome then none
  else some (d.put key (.value v))

/-- Adds the value of a key, which is dotted if it has several parts. -/
def addEntry (key : List String) (v : Value) (d : Draft) : Option Draft := do
  change true (addValue (!key.dropLast.isEmpty) (← key.getLast?) v) key.dropLast d

end Draft

mutual

def Node.toValue : Node → Value
  | .value v => v
  | .table _ entries => .table (Node.toValues entries)
  | .elements tables => .array (Node.toTables tables)

def Node.toValues : List (String × Node) → List (String × Value)
  | [] => []
  | (key, node) :: entries => (key, node.toValue) :: Node.toValues entries

def Node.toTables : List (List (String × Node)) → List Value
  | [] => []
  | entries :: tables => .table (Node.toValues entries) :: Node.toTables tables

end

def Draft.toValue (d : Draft) : Value :=
  .table (Node.toValues d.2)

end Conformance.Toml
