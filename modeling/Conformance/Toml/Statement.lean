import Conformance.Toml.Scalar
import Conformance.Toml.Table
import Conformance.Toml.Token

/-!
# Statements of TOML texts

A text is a list of statements, each ended by a line end outside all brackets: headers of tables and
of elements of arrays of tables, and entries.
-/
namespace Conformance.Toml

inductive Statement where
  | table (path : List String)
  | element (path : List String)
  | entry (key : List String) (v : Value)
  deriving Repr

/-- A key has fewer parts than this, and brackets are nested less deep. -/
def nestingLimit : Nat := 80

namespace Token

def isBlank : Token → Bool
  | blank _ => true
  | _ => false

def isSpace : Token → Bool
  | blank _ | newline => true
  | _ => false

def isComma (t : Token) : Bool :=
  t == .mark ','

def isOpening (t : Token) : Bool :=
  t == .mark '[' || t == .mark '\x7b'

def isClosing (t : Token) : Bool :=
  t == .mark ']' || t == .mark '\x7d'

end Token

/-- Drops tokens at both ends. -/
def strip (drop : Token → Bool) (ts : List Token) : List Token :=
  ((ts.dropWhile drop).reverse.dropWhile drop).reverse

/-- The pieces between the tokens that `cut` picks outside all brackets, when `depth` brackets are
open in front. -/
def pieces (cut : Token → Bool) : Nat → List Token → Option (List (List Token))
  | 0, [] => some [[]]
  | _ + 1, [] => none
  | depth, t :: ts => do
    if depth = 0 ∧ cut t then return [] :: (← pieces cut 0 ts)
    if depth = 0 ∧ t.isClosing then none
    let inside := if t.isOpening then depth + 1 else if t.isClosing then depth - 1 else depth
    return match ← pieces cut inside ts with
      | first :: others => (t :: first) :: others
      | [] => [[t]]

/-! ## Keys -/

def isKeyChar (c : Char) : Bool :=
  c.isAlphanum || c == '_' || c == '-'

def keyPart? : Token → Option String
  | .word text => if text.all isKeyChar then some text else none
  | .quoted text false => some text
  | _ => none

def keyParts? : List Token → Option (List String)
  | [t] => (keyPart? t).map ([·])
  | t :: .mark '.' :: ts => do return (← keyPart? t) :: (← keyParts? ts)
  | _ => none

def key? (ts : List Token) : Option (List String) :=
  (keyParts? (ts.filter (!·.isBlank))).filter (·.length < nestingLimit)

/-! ## Values -/

/-- A key and its value, read by `value`. -/
def pair? (value : List Token → Option Value) (ts : List Token) :
    Option (List String × Value) :=
  let isEquals := fun t => t == Token.mark '='
  match ts.dropWhile (!isEquals ·) with
  | [] => none
  | _ :: rest => do
    return (← key? (ts.takeWhile (!isEquals ·)), ← value (strip Token.isBlank rest))

/-- How a token is written in a value without quotes or brackets. -/
def scalarPart? : Token → Option String
  | .word text | .blank text => some text
  | .mark '.' => some "."
  | _ => none

def scalarText? (ts : List Token) : Option String :=
  (ts.mapM scalarPart?).map String.join

/-- The pieces that hold something, where nothing may follow the last comma. -/
def items (ps : List (List Token)) : List (List Token) :=
  if ps.getLast? == some [] then ps.dropLast else ps

/-- The value that these tokens are, with brackets at most `depth` deep. -/
def value? : Nat → List Token → Option Value
  | _, [.quoted text _] => some (.string text)
  | depth + 1, .mark '[' :: ts => do
    if ts.getLast? != some (.mark ']') then none
    let ps ← pieces Token.isComma 0 ts.dropLast
    return .array (← (items (ps.map (strip Token.isSpace))).mapM (value? depth))
  | depth + 1, .mark '\x7b' :: ts => do
    if ts.getLast? != some (.mark '\x7d') then none
    let ps ← pieces Token.isComma 0 ts.dropLast
    if ps.map (strip Token.isBlank) == [[]] then return .table []
    let draft ← ps.foldlM (fun d p => do
      let (key, v) ← pair? (value? depth) p
      Draft.addEntry key v d) Draft.empty
    return draft.toValue
  | _, ts => (scalarText? ts).bind scalar?

/-! ## Lines -/

/-- The path between brackets. -/
def header? (closing : List Token) (ts : List Token) : Option (List String) :=
  let split := ts.length - closing.length
  if ts.drop split == closing then key? (ts.take split) else none

/-- The statement on a line, which has no blanks at its ends; `none` for a line with nothing on it.
-/
def statement? (ts : List Token) : Option (Option Statement) :=
  match ts with
  | [] => some none
  | .mark '[' :: .mark '[' :: ts =>
    (header? [.mark ']', .mark ']'] ts).map (some <| .element ·)
  | .mark '[' :: ts => (header? [.mark ']'] ts).map (some <| .table ·)
  | ts => (pair? (value? (nestingLimit - 1)) ts).map fun (key, v) => some (.entry key v)

def statements? (ts : List Token) : Option (List Statement) := do
  let lines ← pieces (· == .newline) 0 ts
  return (← lines.mapM (statement? <| strip Token.isBlank ·)).filterMap id

end Conformance.Toml
