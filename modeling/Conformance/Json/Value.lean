/-!
# JSON values

Values as texts hold them. Numbers keep the digits they are written with, and objects keep the order
of their members, names that come twice among them.
-/
namespace Conformance.Json

inductive Value where
  | null
  | bool (b : Bool)
  | number (digits : String)
  | string (s : String)
  /-- A string that is no text, or an object in which such a string is a name. -/
  | illFormed
  | array (items : List Value)
  | object (members : List (String × Value))
  deriving Repr

namespace Value

def strings (items : List String) : Value :=
  .array (items.map .string)

def ofNat (n : Nat) : Value :=
  .number (toString n)

/-- The value of a member whose name comes exactly once. -/
def member? (members : List (String × Value)) (name : String) : Option Value :=
  match members.filter (·.1 == name) with
  | [(_, v)] => some v
  | _ => none

def string? : Value → Option String
  | string s => some s
  | _ => none

def strings? : Value → Option (List String)
  | array items => items.mapM string?
  | _ => none

/-- The values under these names in an object, or those of an array of as many items. -/
def fields? (names : List String) : Value → Option (List Value)
  | object members => names.mapM (member? members)
  | array items => if items.length = names.length then some items else none
  | _ => none

/-- The name of a case: a string, or an object with nothing but a null under the name. -/
def case? : Value → Option String
  | string s => some s
  | object [(name, null)] => some name
  | _ => none

end Value
end Conformance.Json
