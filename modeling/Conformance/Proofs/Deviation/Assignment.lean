import Conformance.Deviation.Matching
import Mathlib.Data.Fin.Tuple.Basic
import Mathlib.Data.List.FinRange
import Mathlib.Tactic.Common

/-!
# Stable assignments

An audit gives command lines to positions of mandatory patterns. Earlier lines choose before later
ones, and every line prefers earlier positions. The assignment that results has no pair of a line
and a position that would both rather have each other, and it is the only one without such a pair.
The report is read off it.
-/
namespace Conformance

/-- The position, if any, that each line has. -/
abbrev Assignment (commands : List String) (patterns : PatternSet) :=
  Fin commands.length → Option (Fin patterns.length)

namespace Assignment

variable {commands : List String} {patterns : PatternSet}

def Fits (commands : List String) (patterns : PatternSet) (i : Fin commands.length)
    (j : Fin patterns.length) : Prop :=
  patterns[j].isMatch commands[i] = true

/-- A line and a fitting position, each of them with nothing or with something that comes later
than the other. -/
structure Blocks (f : Assignment commands patterns) (i : Fin commands.length)
    (j : Fin patterns.length) : Prop where
  fits : Fits commands patterns i j
  line_prefers : ∀ j', f i = some j' → j < j'
  position_prefers : ∀ i', f i' = some j → i < i'

/-- No position is had twice, lines have positions that fit them, and nothing blocks. -/
structure IsStable (f : Assignment commands patterns) : Prop where
  injective : ∀ i i' j, f i = some j → f i' = some j → i = i'
  fits : ∀ i j, f i = some j → Fits commands patterns i j
  unblocked : ∀ i j, ¬ f.Blocks i j

def left (f : Assignment commands patterns) : List (Fin patterns.length) :=
  (List.finRange patterns.length).filter fun j => ∀ i, f i ≠ some j

def unassigned (f : Assignment commands patterns) : List (Fin commands.length) :=
  (List.finRange commands.length).filter fun i => f i = none

theorem mem_left {f : Assignment commands patterns} {j : Fin patterns.length} :
    j ∈ f.left ↔ ∀ i, f i ≠ some j := by
  simp [left]

theorem mem_unassigned {f : Assignment commands patterns} {i : Fin commands.length} :
    i ∈ f.unassigned ↔ f i = none := by
  simp [unassigned]

/-! ## There is at most one stable assignment -/

/-- Where two stable assignments agree on the earlier lines, a line does no worse in the second. -/
theorem IsStable.exists_le {f g : Assignment commands patterns} (hf : f.IsStable)
    (hg : g.IsStable) {i : Fin commands.length} (h : ∀ i' < i, f i' = g i')
    {j : Fin patterns.length} (hj : f i = some j) : ∃ j', g i = some j' ∧ j' ≤ j := by
  by_contra hnot
  push Not at hnot
  apply hg.unblocked i j
  refine ⟨hf.fits i j hj, hnot, ?_⟩
  intro i' hi'
  rcases lt_trichotomy i i' with hlt | heq | hgt
  · exact hlt
  · subst heq
    exact absurd (hnot j hi') (lt_irrefl j)
  · have heq := hf.injective i i' j hj ((h i' hgt).trans hi')
    exact absurd hgt (heq ▸ lt_irrefl i)

theorem IsStable.eq_at {f g : Assignment commands patterns} (hf : f.IsStable) (hg : g.IsStable)
    (i : Fin commands.length) : f i = g i := by
  induction i using WellFoundedLT.induction with
  | ind i ih =>
    have hgf : ∀ i' < i, g i' = f i' := fun i' hi' => (ih i' hi').symm
    cases hfi : f i with
    | none =>
      cases hgi : g i with
      | none => rfl
      | some j =>
        obtain ⟨j', hj', _⟩ := hg.exists_le hf hgf hgi
        rw [hfi] at hj'
        cases hj'
    | some j =>
      obtain ⟨j', hj', hle⟩ := hf.exists_le hg ih hfi
      obtain ⟨j'', hj'', hle'⟩ := hg.exists_le hf hgf hj'
      have : j = j'' := Option.some.inj (hfi.symm.trans hj'')
      subst this
      rw [hj', le_antisymm hle hle']

theorem IsStable.eq {f g : Assignment commands patterns} (hf : f.IsStable) (hg : g.IsStable) :
    f = g :=
  funext (hf.eq_at hg)

/-! ## The assignment of an audit -/

def choice (patterns : PatternSet) (free : List (Fin patterns.length)) (line : String) :
    Option (Fin patterns.length) :=
  free.find? fun j => patterns[j].isMatch line

/-- The positions still free after a line has had its choice. -/
def leave (patterns : PatternSet) (free : List (Fin patterns.length)) (line : String) :
    List (Fin patterns.length) :=
  match choice patterns free line with
  | some j => free.erase j
  | none => free

/-- One line after the other takes its choice of the positions still free. -/
def greedy (patterns : PatternSet) (free : List (Fin patterns.length)) :
    (commands : List String) → Assignment commands patterns
  | [] => fun i => i.elim0
  | line :: rest =>
    Fin.cons (choice patterns free line) (greedy patterns (leave patterns free line) rest)

variable {free : List (Fin patterns.length)} {line : String}

@[simp] theorem greedy_zero (rest : List String) :
    greedy patterns free (line :: rest) (0 : Fin (rest.length + 1)) =
      choice patterns free line := rfl

@[simp] theorem greedy_succ (rest : List String) (i : Fin rest.length) :
    greedy patterns free (line :: rest) i.succ =
      greedy patterns (leave patterns free line) rest i := rfl

theorem mem_of_choice {j : Fin patterns.length} (h : choice patterns free line = some j) :
    j ∈ free :=
  List.mem_of_find?_eq_some h

theorem isMatch_of_choice {j : Fin patterns.length} (h : choice patterns free line = some j) :
    patterns[j].isMatch line = true := by
  have := List.find?_some h
  exact this

theorem leave_subset : leave patterns free line ⊆ free := by
  unfold leave
  split
  · exact List.erase_subset
  · exact List.Subset.refl free

theorem leave_pairwise (h : free.Pairwise (· < ·)) :
    (leave patterns free line).Pairwise (· < ·) := by
  unfold leave
  split
  · exact h.sublist List.erase_sublist
  · exact h

theorem leave_eq_filter (h : free.Pairwise (· < ·)) :
    leave patterns free line = free.filter fun j => choice patterns free line ≠ some j := by
  unfold leave
  cases hc : choice patterns free line with
  | none => simp
  | some j =>
    have hnodup : free.Nodup := h.imp fun hab => ne_of_lt hab
    simp only [hnodup.erase_eq_filter]
    apply List.filter_congr
    intro x _
    by_cases hx : x = j
    · simp [hx]
    · simp [hx, Ne.symm hx]

theorem choice_le (h : free.Pairwise (· < ·)) {j : Fin patterns.length} (hj : j ∈ free)
    (hm : patterns[j].isMatch line = true) : ∃ j', choice patterns free line = some j' ∧ j' ≤ j := by
  cases hc : choice patterns free line with
  | none =>
    have := List.find?_eq_none.mp hc j hj
    exact absurd hm this
  | some j' =>
    refine ⟨j', rfl, ?_⟩
    obtain ⟨_, before, after, rfl, hbefore⟩ := List.find?_eq_some_iff_append.mp hc
    rcases List.mem_append.mp hj with hj | hj
    · exact absurd hm (by simpa using hbefore j hj)
    · rcases List.mem_cons.mp hj with rfl | hj
      · exact le_rfl
      · exact le_of_lt ((List.pairwise_cons.mp (List.pairwise_append.mp h).2.1).1 j hj)

theorem mem_of_greedy {commands : List String} {i : Fin commands.length}
    {j : Fin patterns.length} (h : greedy patterns free commands i = some j) : j ∈ free := by
  induction commands generalizing free with
  | nil => exact i.elim0
  | cons line rest ih =>
    cases i using Fin.cases with
    | zero => exact mem_of_choice h
    | succ i => exact leave_subset (ih h)

theorem fits_of_greedy {commands : List String} {i : Fin commands.length}
    {j : Fin patterns.length} (h : greedy patterns free commands i = some j) :
    Fits commands patterns i j := by
  induction commands generalizing free with
  | nil => exact i.elim0
  | cons line rest ih =>
    cases i using Fin.cases with
    | zero => exact isMatch_of_choice h
    | succ i => exact ih h

theorem greedy_ne_of_choice (h : free.Pairwise (· < ·)) {rest : List String}
    {j : Fin patterns.length} (hj : choice patterns free line = some j) (i : Fin rest.length) :
    greedy patterns (leave patterns free line) rest i ≠ some j := by
  intro hi
  have hmem := mem_of_greedy hi
  rw [leave_eq_filter h] at hmem
  simp [hj] at hmem

theorem greedy_injective (h : free.Pairwise (· < ·)) {commands : List String}
    {i i' : Fin commands.length} {j : Fin patterns.length}
    (hi : greedy patterns free commands i = some j)
    (hi' : greedy patterns free commands i' = some j) : i = i' := by
  induction commands generalizing free with
  | nil => exact i.elim0
  | cons line rest ih =>
    cases i using Fin.cases with
    | zero =>
      cases i' using Fin.cases with
      | zero => rfl
      | succ i' => exact absurd hi' (greedy_ne_of_choice h hi i')
    | succ i =>
      cases i' using Fin.cases with
      | zero => exact absurd hi (greedy_ne_of_choice h hi' i)
      | succ i' => exact congrArg Fin.succ (ih (leave_pairwise h) hi hi')

/-- No line blocks together with a position that was free at the start. -/
theorem greedy_unblocked (h : free.Pairwise (· < ·)) {commands : List String}
    (i : Fin commands.length) {j : Fin patterns.length} (hj : j ∈ free) :
    ¬ (greedy patterns free commands).Blocks i j := by
  intro hb
  induction commands generalizing free with
  | nil => exact i.elim0
  | cons line rest ih =>
    cases i using Fin.cases with
    | zero =>
      obtain ⟨j', hj', hle⟩ := choice_le h hj hb.fits
      exact absurd (hb.line_prefers j' hj') (not_lt.mpr hle)
    | succ i =>
      have hc : choice patterns free line ≠ some j := fun hc =>
        absurd (hb.position_prefers 0 hc) (Fin.not_lt_zero _)
      have hmem : j ∈ leave patterns free line := by
        rw [leave_eq_filter h]
        simp [hj, hc]
      apply ih (leave_pairwise h) i hmem
      refine ⟨hb.fits, hb.line_prefers, ?_⟩
      intro i' hi'
      exact Fin.succ_lt_succ_iff.mp (hb.position_prefers i'.succ hi')

def ofAudit (commands : List String) (patterns : PatternSet) : Assignment commands patterns :=
  greedy patterns (List.finRange patterns.length) commands

theorem isStable_ofAudit (commands : List String) (patterns : PatternSet) :
    (ofAudit commands patterns).IsStable where
  injective _ _ _ := greedy_injective (List.pairwise_lt_finRange _)
  fits _ _ := fits_of_greedy
  unblocked i j := greedy_unblocked (List.pairwise_lt_finRange _) i (List.mem_finRange j)

/-! ## What an audit leaves -/

/-- Removing the first match from the free patterns is making the choice of a free position. -/
theorem removeFirst?_map (p : Fin patterns.length → Bool) {q : Pattern → Bool}
    (hq : ∀ j : Fin patterns.length, q patterns[j] = p j) (free : List (Fin patterns.length)) :
    Audit.removeFirst? q (free.map fun j => patterns[j]) =
      (free.find? p).map fun j => (free.erase j).map fun j => patterns[j] := by
  induction free with
  | nil => rfl
  | cons a as ih =>
    rw [List.map_cons, Audit.removeFirst?, hq, List.find?_cons]
    cases hp : p a with
    | true => simp
    | false =>
      rw [if_neg Bool.false_ne_true, ih]
      cases hf : as.find? p with
      | none => rfl
      | some j =>
        have hne : a ≠ j := fun h => by simp [h, List.find?_some hf] at hp
        simp [List.erase_cons_tail, hne]

theorem step_free (optional : PatternSet) (free : List (Fin patterns.length))
    (extra : List String) (line : String) :
    Audit.step optional ⟨free.map fun j => patterns[j], extra⟩ line =
      ⟨(leave patterns free line).map fun j => patterns[j],
        if choice patterns free line = none ∧ optional.anyMatch line = false
        then line :: extra else extra⟩ := by
  have hq : ∀ j : Fin patterns.length,
      Pattern.isMatch patterns[j] line = (fun j => patterns[j].isMatch line) j := fun _ => rfl
  rw [Audit.step, removeFirst?_map (q := (·.isMatch line)) _ hq, leave, choice]
  cases free.find? fun j => patterns[j].isMatch line with
  | some j => simp
  | none => cases optional.anyMatch line <;> simp

/-- The lines that got no position and that no optional pattern matches. -/
def extra (f : Assignment commands patterns) (optional : PatternSet) : List String :=
  (f.unassigned.filter fun i => !optional.anyMatch commands[i]).map fun i => commands[i]

theorem unassigned_cons (rest : List String) :
    (greedy patterns free (line :: rest)).unassigned =
      (if choice patterns free line = none then [(0 : Fin (rest.length + 1))] else []) ++
        (greedy patterns (leave patterns free line) rest).unassigned.map Fin.succ := by
  have hsucc : List.finRange (line :: rest).length =
      (0 : Fin (rest.length + 1)) :: (List.finRange rest.length).map Fin.succ :=
    List.finRange_succ
  unfold unassigned
  rw [hsucc, List.filter_cons, List.filter_map, greedy_zero]
  cases choice patterns free line <;> rfl

theorem extra_cons (optional : PatternSet) (rest : List String) :
    (greedy patterns free (line :: rest)).extra optional =
      (if choice patterns free line = none ∧ optional.anyMatch line = false then [line] else []) ++
        (greedy patterns (leave patterns free line) rest).extra optional := by
  unfold extra
  rw [unassigned_cons, List.filter_append, List.map_append, List.filter_map, List.map_map]
  congr 1
  cases choice patterns free line <;> cases ho : optional.anyMatch line <;> simp [ho]

theorem filter_leave (h : free.Pairwise (· < ·)) (p : Fin patterns.length → Bool) :
    (leave patterns free line).filter p =
      free.filter fun j => p j && decide (choice patterns free line ≠ some j) := by
  rw [leave_eq_filter h, List.filter_filter]

theorem run_greedy (optional : PatternSet) (h : free.Pairwise (· < ·)) (commands : List String)
    (found : List String) :
    commands.foldl (Audit.step optional) ⟨free.map fun j => patterns[j], found⟩ =
      ⟨(free.filter fun j => ∀ i, greedy patterns free commands i ≠ some j).map
          fun j => patterns[j],
        ((greedy patterns free commands).extra optional).reverse ++ found⟩ := by
  induction commands generalizing free found with
  | nil => simp [extra, unassigned]
  | cons line rest ih =>
    rw [List.foldl_cons, step_free, ih (leave_pairwise h), extra_cons, filter_leave h]
    congr 1
    · congr 1
      apply List.filter_congr
      intro j _
      rw [← Bool.decide_and]
      exact decide_eq_decide.mpr (and_comm.trans (Fin.forall_fin_succ
        (P := fun i => greedy patterns free (line :: rest) i ≠ some j)).symm)
    · split <;> simp

theorem findDeviations_eq (mandatory optional : PatternSet) (lines : List String) :
    findDeviations mandatory optional lines =
      .ofLines ((ofAudit (commandLines lines) mandatory).left.map fun j => mandatory[j].render)
        ((ofAudit (commandLines lines) mandatory).extra optional) := by
  have hall : (List.finRange mandatory.length).map (fun j => mandatory[j]) = mandatory := by
    simp
  have hrun := run_greedy optional (List.pairwise_lt_finRange mandatory.length)
    (commandLines lines) []
  rw [hall, List.append_nil] at hrun
  rw [findDeviations, Audit.run, hrun, List.map_map, List.reverse_reverse]
  rfl

end Assignment

/-- The command lines of a configuration have exactly one stable assignment to the mandatory
patterns, and an audit reports what that assignment leaves over on either side. -/
theorem findDeviations_stable (mandatory optional : PatternSet) (lines : List String) :
    ∃ f : Assignment (commandLines lines) mandatory,
      f.IsStable ∧ (∀ g : Assignment (commandLines lines) mandatory, g.IsStable → g = f) ∧
      (findDeviations mandatory optional lines).missing =
        f.left.map (fun j => mandatory[j].render) ∧
      (findDeviations mandatory optional lines).extra =
        (f.unassigned.filter fun i => !optional.anyMatch (commandLines lines)[i]).map
          (fun i => (commandLines lines)[i]) ∧
      (findDeviations mandatory optional lines).status =
        .ofCounts (findDeviations mandatory optional lines).missing.length
          (findDeviations mandatory optional lines).extra.length ∧
      (∀ i ∈ f.unassigned, ∀ j ∈ f.left, mandatory[j].isMatch (commandLines lines)[i] = false) ∧
      ((findDeviations mandatory optional lines).isClean = true →
        ∃ own : Fin mandatory.length → Fin (commandLines lines).length,
          Function.Injective own ∧
          ∀ j, f (own j) = some j ∧ mandatory[j].isMatch (commandLines lines)[own j] = true) := by
  have hf := Assignment.isStable_ofAudit (commandLines lines) mandatory
  rw [Assignment.findDeviations_eq]
  refine ⟨_, hf, fun g hg => hg.eq hf, rfl, rfl, rfl, ?_, ?_⟩
  · intro i hi j hj
    rw [Assignment.mem_unassigned] at hi
    rw [Assignment.mem_left] at hj
    by_contra hm
    apply hf.unblocked i j
    constructor
    · simpa [Assignment.Fits] using hm
    · intro j' hj'
      rw [hi] at hj'
      cases hj'
    · intro i' hi'
      exact absurd hi' (hj i')
  · intro hclean
    have hleft := List.map_eq_nil_iff.mp ((DeviationReport.isClean_ofLines _ _).mp hclean).1
    have hown : ∀ j, ∃ i, Assignment.ofAudit (commandLines lines) mandatory i = some j := by
      intro j
      by_contra hnot
      have hj := Assignment.mem_left.mpr (not_exists.mp hnot)
      rw [hleft] at hj
      cases hj
    choose own hown using hown
    refine ⟨own, ?_, fun j => ⟨hown j, hf.fits _ j (hown j)⟩⟩
    intro j j' h
    have hsome : some j = some j' := (hown j).symm.trans ((congrArg _ h).trans (hown j'))
    exact Option.some.inj hsome

end Conformance
