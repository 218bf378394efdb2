import Conformance.Text.Lines
import Mathlib.Data.List.Basic
import Mathlib.Tactic.Common

/-!
# Lines as they are written

Lines that are written one after the other, each with a line feed behind it, are read again as they
were, unless one has a line feed in it or a carriage return at its end.
-/
namespace Conformance.Text

variable {s : List Char} {contents : List String}

def written (contents : List String) : String :=
  String.join (contents.map (· ++ "\n"))

/-- A line without a line feed in it or a carriage return at its end. -/
structure IsLine (line : String) : Prop where
  feed_not_mem : '\n' ∉ line.toList
  getLast?_ne : line.toList.getLast? ≠ some '\r'

instance (line : String) : Decidable (IsLine line) :=
  decidable_of_iff ('\n' ∉ line.toList ∧ line.toList.getLast? ≠ some '\r')
    ⟨fun h => ⟨h.1, h.2⟩, fun h => ⟨h.1, h.2⟩⟩

theorem linesFrom_append (hfeed : '\n' ∉ s) (line rest : List Char) :
    linesFrom line (s ++ '\n' :: rest) =
      (dropReturn (s.reverse ++ line)).reverse :: linesFrom [] rest := by
  induction s generalizing line with
  | nil => rfl
  | cons c s ih =>
    rw [List.mem_cons, not_or] at hfeed
    rw [List.cons_append, linesFrom, if_neg (by simpa using Ne.symm hfeed.1), ih hfeed.2,
      List.reverse_cons, List.append_assoc]
    rfl

theorem dropReturn_reverse (h : s.getLast? ≠ some '\r') : dropReturn s.reverse = s.reverse := by
  rw [List.getLast?_eq_head?_reverse] at h
  cases hs : s.reverse with
  | nil => rfl
  | cons c rest =>
    rw [hs] at h
    rw [dropReturn]
    intro rest' heq
    exact h (congrArg List.head? heq)

theorem toList_written (line : String) (contents : List String) :
    (written (line :: contents)).toList = line.toList ++ '\n' :: (written contents).toList := by
  rw [written, List.map_cons, String.join_cons, String.toList_append, String.toList_append,
    List.append_assoc]
  rfl

theorem lines_written (h : ∀ line ∈ contents, IsLine line) : lines (written contents) = contents := by
  rw [lines]
  induction contents with
  | nil => rfl
  | cons line contents ih =>
    rw [List.forall_mem_cons] at h
    rw [toList_written, linesFrom_append h.1.feed_not_mem, List.append_nil,
      dropReturn_reverse h.1.getLast?_ne, List.reverse_reverse, List.map_cons, ih h.2,
      String.ofList_toList]

end Conformance.Text
