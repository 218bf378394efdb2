import Conformance.Json.Token

/-!
# Reading JSON

Tokens build a value from the outside in: the objects and arrays still open form a stack, and a
value that is complete goes into the innermost of them.
-/
namespace Conformance.Json

/-- An open array or object. What it holds so far is in reverse. -/
inductive Container where
  | array (items : List Value)
  | object (members : List (String × Value)) (name : String)
  /-- An object with a name that is no text. -/
  | illFormed
  deriving Repr

/-- What may come next. -/
inductive Expected where
  | value
  | itemOrClose
  | name
  | nameOrClose
  | colon
  | commaOrClose
  deriving DecidableEq, Repr

/-- A value that is being built, or that is complete. -/
inductive Building where
  | open (expected : Expected) (stack : List Container)
  | done (v : Value)
  deriving Repr

namespace Building

def start : Building :=
  .open .value []

/-- Puts a complete value where it belongs. -/
def complete (v : Value) : List Container → Building
  | [] => .done v
  | .array items :: stack => .open .commaOrClose (.array (v :: items) :: stack)
  | .object members name :: stack =>
    .open .commaOrClose (.object ((name, v) :: members) name :: stack)
  | .illFormed :: stack => .open .commaOrClose (.illFormed :: stack)

def closeArray? : List Container → Option Building
  | .array items :: stack => some (complete (.array items.reverse) stack)
  | _ => none

def closeObject? : List Container → Option Building
  | .object members _ :: stack => some (complete (.object members.reverse) stack)
  | .illFormed :: stack => some (complete .illFormed stack)
  | _ => none

/-- Reads the start of a value. -/
def value? (stack : List Container) : Token → Option Building
  | .scalar v => some (complete v stack)
  | .openArray => some (.open .itemOrClose (.array [] :: stack))
  | .openObject => some (.open .nameOrClose (.object [] "" :: stack))
  | _ => none

/-- Reads the name of a member. -/
def name? (stack : List Container) (t : Token) : Option Building :=
  match t, stack with
  | .scalar (.string name), .object members _ :: stack =>
    some (.open .colon (.object members name :: stack))
  | .scalar .illFormed, .object _ _ :: stack
  | .scalar (.string _), .illFormed :: stack
  | .scalar .illFormed, .illFormed :: stack => some (.open .colon (.illFormed :: stack))
  | _, _ => none

def step : Building → Token → Option Building
  | .done _, _ => none
  | .open .value stack, t => value? stack t
  | .open .itemOrClose stack, t =>
    match t with
    | .closeArray => closeArray? stack
    | t => value? stack t
  | .open .name stack, t => name? stack t
  | .open .nameOrClose stack, t =>
    match t with
    | .closeObject => closeObject? stack
    | t => name? stack t
  | .open .colon stack, t =>
    match t with
    | .colon => some (.open .value stack)
    | _ => none
  | .open .commaOrClose stack, t =>
    match t, stack with
    | .comma, .array _ :: _ => some (.open .value stack)
    | .comma, .object _ _ :: _ | .comma, .illFormed :: _ => some (.open .name stack)
    | .closeArray, _ => closeArray? stack
    | .closeObject, _ => closeObject? stack
    | _, _ => none

def done? : Building → Option Value
  | .done v => some v
  | .open _ _ => none

end Building

def ofTokens? (ts : List Token) : Option Value :=
  (ts.foldlM Building.step .start).bind Building.done?

/-- Reads bytes that are one value with blanks around it. -/
def parse? (bytes : List UInt8) : Option Value :=
  (tokens bytes).bind ofTokens?

end Conformance.Json
