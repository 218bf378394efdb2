import Conformance.Text.Parts

/-!
# Tables over code points

Character data comes as text: inclusive ranges of hexadecimal code points, or runs that name the
value holding from a code point up to the next run. Both are searched by halving.
-/
namespace Conformance.Unicode

def hexDigit? (c : Char) : Option Nat :=
  if '0' ≤ c ∧ c ≤ '9' then some (c.toNat - '0'.toNat)
  else if 'a' ≤ c ∧ c ≤ 'f' then some (c.toNat - 'a'.toNat + 10)
  else if 'A' ≤ c ∧ c ≤ 'F' then some (c.toNat - 'A'.toNat + 10)
  else none

/-- The number that hexadecimal digits denote; other characters are passed over. -/
def hexValue (digits : List Char) : Nat :=
  digits.foldl (fun n c => match hexDigit? c with
    | some d => 16 * n + d
    | none => n) 0

/-- The words of a table, which has a space between any two of a line. -/
def tableWords (lines : List String) : List (List Char) :=
  lines.flatMap fun line => Text.split ' ' line.toList

/-- Inclusive ranges of code points, ascending and disjoint. -/
structure RangeSet where
  bounds : Array (Nat × Nat)

namespace RangeSet

/-- Reads ranges such as `41-5A` and single code points such as `B5`. -/
def ofText (lines : List String) : RangeSet where
  bounds := ((tableWords lines).map fun word =>
    let low := hexValue (word.takeWhile (· != '-'))
    match word.dropWhile (· != '-') with
    | [] => (low, low)
    | _ :: high => (low, hexValue high)).toArray

/-- Whether one of the ranges with index in `[low, high)` holds `n`. -/
def search (bounds : Array (Nat × Nat)) (n low high : Nat) : Bool :=
  if _ : low < high then
    let mid := (low + high) / 2
    match bounds[mid]? with
    | none => false
    | some (first, last) =>
      if n < first then search bounds n low mid
      else if last < n then search bounds n (mid + 1) high
      else true
  else false
termination_by high - low

def contains (s : RangeSet) (c : Char) : Bool :=
  search s.bounds c.toNat 0 s.bounds.size

def size (s : RangeSet) : Nat :=
  s.bounds.size

end RangeSet

/-- Values over all code points: each run holds from its start to the start of the next. -/
structure Runs (α : Type) where
  starts : Array (Nat × α)

namespace Runs
variable {α : Type}

/-- Reads runs such as `41:Lu`; `value` reads what follows the colon. -/
def ofText (value : String → Option α) (lines : List String) : Runs α where
  starts := ((tableWords lines).filterMap fun word =>
    (value (String.ofList ((word.dropWhile (· != ':')).drop 1))).map fun v =>
      (hexValue (word.takeWhile (· != ':')), v)).toArray

/-- The value of the last run with index in `[low, high)` that starts at or before `n`. -/
def search (starts : Array (Nat × α)) (n low high : Nat) (best : Option α) : Option α :=
  if _ : low < high then
    let mid := (low + high) / 2
    match starts[mid]? with
    | none => best
    | some (first, v) =>
      if n < first then search starts n low mid best
      else search starts n (mid + 1) high (some v)
  else best
termination_by high - low

def find? (r : Runs α) (c : Char) : Option α :=
  search r.starts c.toNat 0 r.starts.size none

end Runs
end Conformance.Unicode
