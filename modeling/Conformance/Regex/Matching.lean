import Conformance.Regex.Expr

/-!
# Matching

Sets of positions are descending lists. `ends text e s` carries all positions of `s` at once through
the expression `e`, to every position where a match of `e` that starts in `s` may end.
-/
namespace Conformance.Regex

/-- The union of two descending lists. -/
def merge : List Nat → List Nat → List Nat
  | [], ys => ys
  | xs, [] => xs
  | x :: xs, y :: ys =>
    if x = y then x :: merge xs ys
    else if y < x then x :: merge xs (y :: ys)
    else y :: merge (x :: xs) ys
termination_by xs ys => xs.length + ys.length

/-- The members of the first descending list that are not in the second. -/
def minus : List Nat → List Nat → List Nat
  | [], _ => []
  | xs, [] => xs
  | x :: xs, y :: ys =>
    if x = y then minus xs (y :: ys)
    else if y < x then x :: minus xs (y :: ys)
    else minus (x :: xs) ys
termination_by xs ys => xs.length + ys.length

/-- Exactly `n` rounds of `f`, fewer once nothing is left or nothing changes. -/
def rounds (f : List Nat → List Nat) : Nat → List Nat → List Nat
  | 0, s => s
  | n + 1, s =>
    let t := f s
    if t.isEmpty || t == s then t else rounds f n t

/-- Everything reached in up to `n` rounds of `f`; only positions that are new go another round. -/
def closure (f : List Nat → List Nat) : Nat → List Nat → List Nat → List Nat
  | 0, seen, _ => seen
  | n + 1, seen, fresh =>
    let next := minus (f fresh) seen
    if next.isEmpty then seen else closure f n (merge next seen) next

def ends (text : Array Char) : Expr → List Nat → List Nat
  | .empty, s => s
  | .chars set, s => s.filterMap fun i =>
    match text[i]? with
    | some c => if set.contains c then some (i + 1) else none
    | none => none
  | .look condition, s => s.filter fun i => condition.holds text i
  | .seq a b, s =>
    match ends text a s with
    | [] => []
    | t => ends text b t
  | .alt a b, s => merge (ends text a s) (ends text b s)
  | .rep e least most, s =>
    let t := rounds (ends text e) least s
    if t.isEmpty then []
    else match most with
      | some m => closure (ends text e) (m - least) t t
      | none => closure (ends text e) (text.size + 1) t t

/-- Every position of a text, from its end down to its start. -/
def positions (text : Array Char) : List Nat :=
  (List.range (text.size + 1)).reverse

/-- Whether the expression matches some piece of the text. -/
def Expr.isMatch (e : Expr) (text : String) : Bool :=
  let chars := text.toList.toArray
  !(ends chars e (positions chars)).isEmpty

end Conformance.Regex
