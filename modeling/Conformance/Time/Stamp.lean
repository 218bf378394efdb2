import Conformance.Time.Moment
import Conformance.Unicode.Binary

/-!
# Stamps

Identifiers carry the moment that they belong to as a stamp, such as `2024-05-01_0900`. Among
several stamps in one identifier the last one counts, where stamps are looked for from the left and
never overlap.
-/
namespace Conformance.Stamp

/-- What a stamp looks like: digits of any script at `d`, and the other characters themselves. -/
def shape : List Char :=
  "dddd-dd-dd_dddd".toList

def fits : List Char → List Char → Bool
  | [], _ => true
  | _ :: _, [] => false
  | p :: ps, c :: s => (if p == 'd' then Unicode.isDigit c else c == p) && fits ps s

/-- Every piece of the text in the shape of a stamp, after passing over `skip` characters. -/
def candidates (skip : Nat) : List Char → List (List Char)
  | [] => []
  | c :: s =>
    match skip with
    | k + 1 => candidates k s
    | 0 =>
      if fits shape (c :: s) then (c :: s).take shape.length :: candidates (shape.length - 1) s
      else candidates 0 s

/-- The number that decimal digits denote. -/
def number? (digits : List Char) : Option Nat :=
  digits.foldlM (fun n c => if c.isDigit then some (10 * n + (c.toNat - '0'.toNat)) else none) 0

/-- The moment that a text in the shape of a stamp denotes, if there is such a moment. -/
def moment? (s : List Char) : Option Moment := do
  let part := fun start length => number? ((s.drop start).take length)
  let year ← part 0 4
  let month ← part 5 2
  let day ← part 8 2
  let hour ← part 11 2
  let minute ← part 13 2
  let t : Moment := ⟨year, month, day, hour, minute, 0⟩
  if t.isReal then some t else none

/-- The moment of an identifier. -/
def parse (id : String) : Option Moment :=
  ((candidates 0 id.toList).filterMap moment?).getLast?

/-- Years of more or fewer than four digits have a sign. -/
def formatYear (year : Int) : String :=
  if 0 ≤ year ∧ year ≤ 9999 then Moment.padded 4 year.toNat
  else (if year < 0 then "-" else "+") ++ Moment.padded 4 year.natAbs

def format (t : Moment) : String :=
  formatYear t.year ++ "-" ++ Moment.padded 2 t.month ++ "-" ++ Moment.padded 2 t.day ++ "_" ++
    Moment.padded 2 t.hour ++ Moment.padded 2 t.minute

/-- The later of two identifiers by their moments; of one moment, the one that sorts last. -/
def later (a b : Moment × String) : Moment × String :=
  if a.1.isBefore b.1 || (a.1 == b.1 && a.2 < b.2) then b else a

/-- The latest of the identifiers that have a stamp, with its moment. -/
def latest? (ids : List String) : Option (Moment × String) :=
  match ids.filterMap fun id => (parse id).map fun t => (t, id) with
  | [] => none
  | first :: rest => some (rest.foldl later first)

end Conformance.Stamp
