/-!
# TOML values

Values as configuration texts hold them. Of a floating-point number and of a date nothing is kept
but how it is written.
-/
namespace Conformance.Toml

inductive Value where
  | string (s : String)
  | integer (n : Int)
  | float (text : String)
  | boolean (b : Bool)
  | date (text : String)
  | array (items : List Value)
  | table (entries : List (String × Value))
  deriving Repr

namespace Value

def string? : Value → Option String
  | string s => some s
  | _ => none

def boolean? : Value → Option Bool
  | boolean b => some b
  | _ => none

/-- A number that counts something. -/
def count? : Value → Option Nat
  | integer (.ofNat n) => some n
  | _ => none

def array? : Value → Option (List Value)
  | array items => some items
  | _ => none

def strings? (v : Value) : Option (List String) :=
  v.array?.bind (·.mapM string?)

/-- The values of a record with these fields, none where a field is not given. A record is a table,
or an array that gives its fields in order; a date stands for a record that gives none. -/
def fields? (names : List String) : Value → Option (List (Option Value))
  | table entries => some (names.map (List.lookup · entries))
  | array items => some ((List.range names.length).map (items[·]?))
  | date _ => some (names.map fun _ => none)
  | _ => none

end Value
end Conformance.Toml
