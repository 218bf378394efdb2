import Conformance.Proofs.Text.Command

/-!
# What is left over

An audit comes down to two things: the patterns that no line took, and the lines that took no
pattern. The optional patterns only decide which of those lines are extra. Two sets of mandatory
patterns, one after the other, are taken from in two rounds: what the first set leaves of the lines
goes on to the second.
-/
namespace Conformance

variable {α : Type} {p : α → Bool} {xs ys zs : List α}

namespace Audit

theorem removeFirst?_eq_none : removeFirst? p xs = none ↔ ∀ x ∈ xs, p x = false := by
  induction xs with
  | nil => simp [removeFirst?]
  | cons x xs ih => cases hx : p x <;> simp [removeFirst?, hx, ih]

theorem removeFirst?_append_of_some (h : removeFirst? p xs = some zs) (ys : List α) :
    removeFirst? p (xs ++ ys) = some (zs ++ ys) := by
  induction xs generalizing zs with
  | nil => cases h
  | cons x xs ih =>
    rw [removeFirst?] at h
    rw [List.cons_append, removeFirst?]
    split at h
    · next hx =>
      cases h
      rw [if_pos hx]
    · next hx =>
      obtain ⟨rest, hrest, rfl⟩ := Option.map_eq_some_iff.mp h
      rw [if_neg hx, ih hrest]
      rfl

theorem removeFirst?_append_of_none (h : removeFirst? p xs = none) (ys : List α) :
    removeFirst? p (xs ++ ys) = (removeFirst? p ys).map (xs ++ ·) := by
  induction xs with
  | nil => simp
  | cons x xs ih =>
    rw [removeFirst?_eq_none, List.forall_mem_cons] at h
    rw [List.cons_append, removeFirst?, if_neg (by simp [h.1]), ih (removeFirst?_eq_none.mpr h.2),
      Option.map_map]
    rfl

theorem removeFirst?_subset (h : removeFirst? p ys = some xs) : xs ⊆ ys := by
  induction ys generalizing xs with
  | nil => cases h
  | cons y ys ih =>
    rw [removeFirst?] at h
    split at h
    · cases h
      exact List.subset_cons_self y ys
    · obtain ⟨rest, hrest, rfl⟩ := Option.map_eq_some_iff.mp h
      exact List.cons_subset_cons y (ih hrest)

end Audit

/-- The patterns that no line took, and the lines that took no pattern, both in order. -/
structure Remainder where
  free : PatternSet
  lines : List String

namespace Remainder

variable {free : PatternSet} {line : String} {commands : List String}

/-- What is left over once each line has taken the first free pattern that matches it. -/
def of (free : PatternSet) : List String → Remainder
  | [] => ⟨free, []⟩
  | line :: rest =>
    match Audit.removeFirst? (·.isMatch line) free with
    | some fewer => of fewer rest
    | none => ⟨(of free rest).free, line :: (of free rest).lines⟩

theorem of_cons_some {fewer : PatternSet}
    (h : Audit.removeFirst? (·.isMatch line) free = some fewer)
    (rest : List String) : of free (line :: rest) = of fewer rest := by
  rw [of, h]

theorem of_cons_none (h : Audit.removeFirst? (·.isMatch line) free = none) (rest : List String) :
    of free (line :: rest) = ⟨(of free rest).free, line :: (of free rest).lines⟩ := by
  rw [of, h]

theorem foldl_step (optional free : PatternSet) (found : List String) (commands : List String) :
    commands.foldl (Audit.step optional) ⟨free, found⟩ = ⟨(of free commands).free,
      ((of free commands).lines.filter (!optional.anyMatch ·)).reverse ++ found⟩ := by
  induction commands generalizing free found with
  | nil => rfl
  | cons line rest ih =>
    rw [List.foldl_cons, Audit.step]
    cases h : Audit.removeFirst? (·.isMatch line) free with
    | some fewer => rw [of_cons_some h, ← ih]
    | none =>
      rw [of_cons_none h, List.filter_cons]
      cases optional.anyMatch line <;> simp [ih]

theorem lines_sublist (free : PatternSet) (commands : List String) :
    (of free commands).lines.Sublist commands := by
  induction commands generalizing free with
  | nil => exact .slnil
  | cons line rest ih =>
    cases h : Audit.removeFirst? (·.isMatch line) free with
    | some fewer =>
      rw [of_cons_some h]
      exact (ih fewer).cons line
    | none =>
      rw [of_cons_none h]
      exact (ih free).cons_cons line

/-- The lines that take no pattern of the first set go on to the second. -/
theorem of_append (first second : PatternSet) (commands : List String) :
    of (first ++ second) commands =
      ⟨(of first commands).free ++ (of second (of first commands).lines).free,
        (of second (of first commands).lines).lines⟩ := by
  induction commands generalizing first second with
  | nil => rfl
  | cons line rest ih =>
    cases hfirst : Audit.removeFirst? (·.isMatch line) first with
    | some fewer =>
      rw [of_cons_some (Audit.removeFirst?_append_of_some hfirst second), of_cons_some hfirst, ih]
    | none =>
      have happend := Audit.removeFirst?_append_of_none hfirst second
      rw [of_cons_none hfirst]
      cases hsecond : Audit.removeFirst? (·.isMatch line) second with
      | some fewer =>
        rw [hsecond] at happend
        rw [of_cons_some happend, of_cons_some hsecond, ih]
      | none =>
        rw [hsecond] at happend
        rw [of_cons_none happend, of_cons_none hsecond, ih]

end Remainder

/-- A report lists what is left over, but for lines that an optional pattern matches. -/
theorem findDeviations_eq_ofLines (mandatory optional : PatternSet) (lines : List String) :
    findDeviations mandatory optional lines =
      .ofLines ((Remainder.of mandatory (commandLines lines)).free.map Pattern.render)
        ((Remainder.of mandatory (commandLines lines)).lines.filter (!optional.anyMatch ·)) := by
  rw [findDeviations, Audit.run, Remainder.foldl_step, List.append_nil]
  dsimp only
  rw [List.reverse_reverse]

theorem mem_extra_findDeviations {mandatory optional : PatternSet} {lines : List String}
    {line : String} (h : line ∈ (findDeviations mandatory optional lines).extra) :
    line ∈ commandLines lines := by
  rw [findDeviations_eq_ofLines] at h
  exact (Remainder.lines_sublist mandatory (commandLines lines)).subset (List.mem_of_mem_filter h)

theorem extra_findDeviations_nil (mandatory : PatternSet) (lines : List String) :
    (findDeviations mandatory [] lines).extra =
      (Remainder.of mandatory (commandLines lines)).lines := by
  rw [findDeviations_eq_ofLines]
  exact List.filter_eq_self.mpr fun _ _ => rfl

theorem commandLines_remainder (mandatory : PatternSet) (lines : List String) :
    commandLines (Remainder.of mandatory (commandLines lines)).lines =
      (Remainder.of mandatory (commandLines lines)).lines :=
  commandLines_eq_self fun _ hline =>
    mem_commandLines ((Remainder.lines_sublist mandatory (commandLines lines)).subset hline)

/-- To audit against two sets of mandatory patterns, one after the other, is to audit what the first
set leaves over against the second. What is missing from the first set does not depend on the
second. -/
theorem findDeviations_append (first second optional : PatternSet) (lines : List String) :
    let base := findDeviations first [] lines
    let added := findDeviations second optional base.extra
    findDeviations (first ++ second) optional lines =
        .ofLines (base.missing ++ added.missing) added.extra ∧
      base.missing <+: (findDeviations (first ++ second) optional lines).missing := by
  intro base added
  have hbase : base.missing =
      (Remainder.of first (commandLines lines)).free.map Pattern.render := by
    rw [show base = _ from findDeviations_eq_ofLines first [] lines]
    rfl
  have hadded : added = .ofLines
      ((Remainder.of second (Remainder.of first (commandLines lines)).lines).free.map
        Pattern.render)
      ((Remainder.of second (Remainder.of first (commandLines lines)).lines).lines.filter
        (!optional.anyMatch ·)) := by
    rw [show added = _ from findDeviations_eq_ofLines second optional base.extra,
      show base.extra = _ from extra_findDeviations_nil first lines, commandLines_remainder]
  have hall : findDeviations (first ++ second) optional lines =
      .ofLines (base.missing ++ added.missing) added.extra := by
    rw [findDeviations_eq_ofLines, Remainder.of_append, hbase, hadded, List.map_append]
    rfl
  refine ⟨hall, ?_⟩
  rw [hall]
  exact List.prefix_append _ _

end Conformance
