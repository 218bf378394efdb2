import Conformance.Unicode.Folding
import Conformance.Unicode.Property

/-!
# Sets of characters

What a class, an escape or a single character of a pattern admits at one position.
-/
namespace Conformance.Regex

inductive CharSet where
  | empty
  | range (low high : Char)
  | property (p : Unicode.Property)
  | union (a b : CharSet)
  | inter (a b : CharSet)
  | diff (a b : CharSet)
  | compl (a : CharSet)
  /-- All characters equal to a member when case is ignored. -/
  | folded (a : CharSet)
  deriving DecidableEq, Repr

namespace CharSet

def contains : CharSet → Char → Bool
  | empty, _ => false
  | range low high, c => low ≤ c && c ≤ high
  | property p, c => p.holds c
  | union a b, c => a.contains c || b.contains c
  | inter a b, c => a.contains c && b.contains c
  | diff a b, c => a.contains c && !b.contains c
  | compl a, c => !a.contains c
  | folded a, c => (Unicode.orbit c).any a.contains

def only (c : Char) : CharSet :=
  .range c c

def any : CharSet :=
  .property .any

def ascii : CharSet :=
  .property .ascii

def symmetricDiff (a b : CharSet) : CharSet :=
  .diff (.union a b) (.inter a b)

def ofList (sets : List CharSet) : CharSet :=
  sets.foldr .union .empty

theorem contains_only (c d : Char) : (only c).contains d = (d == c) := by
  by_cases h : d = c
  · subst h; simp [only, contains]
  · have hne : ¬ (c ≤ d ∧ d ≤ c) := fun hcd => h (Char.le_antisymm hcd.2 hcd.1)
    rw [only, contains, ← Bool.decide_and, decide_eq_false hne, beq_eq_false_iff_ne.mpr h]

end CharSet
end Conformance.Regex
