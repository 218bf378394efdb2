import Conformance.Proofs.Regex.Assembly
import Conformance.Proofs.Regex.Lockstep
import Conformance.Proofs.Regex.Verbose
import Mathlib.Algebra.Order.BigOperators.Group.List
import Mathlib.Algebra.Order.Group.Int

/-!
# Fragments that leave one another alone

A fragment is put into a group of its own, and the fragments behind it follow that group. How it is
read does not depend on them as long as it leaves neither a class open nor verbose notation on that
they would be read in. What it then changes for them is only how many groups are open.
-/
namespace Conformance.Regex

open Reading (IsSteady IsTerse Reaches)

variable {fragment : String} {behind : List String} {q r r' : Reading} {bottom : List Level}
  {w : List Char}

/-- The start of a group, within as many groups as the fragment might close. -/
def Reading.deep (fragment : String) : Reading :=
  Reading.start.inside (List.replicate (fragment.toList.length + 1) (.start {})) []

def readGrouped (fragment : String) : Except Fault Reading :=
  (Reading.deep fragment).readAll (fragment.toList ++ [')'])

/-- How many more groups the fragment opens than it closes. -/
def surplus (fragment : String) : Int :=
  match readGrouped fragment with
  | .ok r => r.outer.length - fragment.toList.length
  | .error _ => 0

def totalSurplus : List String → Int
  | [] => 0
  | f :: fs => surplus f + totalSurplus fs

/-- The fragment is not read to its end, and nothing behind the parenthesis that closes its group
mends it. -/
def IsBroken (fragment : String) : Prop :=
  ∀ w, w = [] ∨ (∃ u, w = ')' :: u) → ∃ fault, fault ≠ .unopenedGroup ∧
    (Reading.deep fragment).readAll (fragment.toList ++ w) = .error fault

/-- The fragment begins a class at `q` that it does not end. -/
def LeavesClassOpen (fragment : String) (q : Reading) : Prop :=
  ∃ t, Reaches (.deep fragment) fragment.toList q ('[' :: t) ∧
    ∀ found, readClass q.level.flags t ≠ .ok found

/-- The fragments behind do not change how the fragment is read, nor does it change how they are
read. A class that it leaves open would end at the first closing bracket, and verbose notation
reaches up to the end of the groups that it leaves open. -/
def IsSettled (fragment : String) (behind : List String) : Prop :=
  IsBroken fragment ∨ IsSteady (.deep fragment) fragment.toList ∧
    ((∃ q, LeavesClassOpen fragment q ∧
        ∀ f ∈ behind, ']' ∉ f.toList ∧ IsCalm q.level.flags f.toList) ∨
      ∃ r, readGrouped fragment = .ok r ∧ (behind = [] ∨ r.IsTerse))

theorem surplus_of_readGrouped (h : readGrouped fragment = .ok r) :
    surplus fragment = r.outer.length - fragment.toList.length := by
  rw [surplus, h]

theorem IsBroken.readAll_start_ne_ok (h : IsBroken fragment) :
    Reading.start.readAll fragment.toList ≠ .ok r := by
  intro hread
  obtain ⟨fault, -, hfault⟩ := h [] (.inl rfl)
  rw [List.append_nil] at hfault
  cases hfault.symm.trans (Reading.readAll_inside_ok hread _ _)

theorem isSteady_of_deep (h : IsSteady (.deep fragment) fragment.toList) :
    IsSteady .start fragment.toList :=
  fun r rest hreach => h (r.inside _ _) rest (hreach.inside _ _)

theorem isTerse_deep (fragment : String) : (Reading.deep fragment).IsTerse := by
  refine ⟨rfl, fun l hl => ?_⟩
  have hl' : l ∈ List.replicate (fragment.toList.length + 1) (Level.start {}) := hl
  rw [List.eq_of_mem_replicate hl']
  rfl

theorem isSteady_deep_of_notMem (hx : 'x' ∉ fragment.toList) :
    IsSteady (.deep fragment) fragment.toList := by
  intro q rest hreach hverbose
  rw [(hreach.isTerse (isTerse_deep fragment) hx).level] at hverbose
  cases hverbose

/-- Without the letter that switches verbose notation on, it is enough that the group is read to its
end. -/
theorem isSettled_of_readGrouped (hx : 'x' ∉ fragment.toList) (h : readGrouped fragment = .ok r) :
    IsSettled fragment behind := by
  refine .inr ⟨isSteady_deep_of_notMem hx, .inr ⟨r, h, .inr ?_⟩⟩
  obtain ⟨rest, hreach, -⟩ := Reading.exists_reaches_of_readAll h
  exact hreach.isTerse (isTerse_deep fragment) (by simpa using hx)

theorem isSettled_of_leavesClassOpen (hx : 'x' ∉ fragment.toList)
    (h : LeavesClassOpen fragment q) (hbehind : ∀ f ∈ behind, ']' ∉ f.toList) :
    IsSettled fragment behind := by
  refine .inr ⟨isSteady_deep_of_notMem hx, .inl ⟨q, h, fun f hf => ⟨hbehind f hf, ?_⟩⟩⟩
  obtain ⟨t, hreach, -⟩ := h
  intro hverbose
  rw [(hreach.isTerse (isTerse_deep fragment) hx).level] at hverbose
  cases hverbose

/-! ## Any group for the deep one -/

/-- Within enough further levels, the start of a group is no less deep than what the fragment is
read in by itself. -/
theorem exists_isStricter_deep (fragment : String) (hr : r.IsTerse)
    (hpieces : r.level.pieces = []) :
    ∃ bottom, bottom.length = r.outer.length ∧ (∀ l ∈ bottom, l.flags.verbose = false) ∧
      Reading.IsStricter bottom
        (r.inside (List.replicate (fragment.toList.length + 1) (.start {})) []) (.deep fragment) := by
  have hall : ∀ l ∈ r.outer ++ List.replicate (fragment.toList.length + 1) (.start {}),
      l.flags.verbose = false := by
    intro l hl
    rcases List.mem_append.mp hl with hl | hl
    · exact hr.outer l hl
    · rw [List.eq_of_mem_replicate hl]
      rfl
  generalize hlevels : r.outer ++ List.replicate (fragment.toList.length + 1) (.start {}) = levels
    at hall
  have hlength := congrArg List.length hlevels
  rw [List.length_append, List.length_replicate] at hlength
  refine ⟨levels.drop (fragment.toList.length + 1), ?_, ?_, ⟨?_, ?_⟩, ?_⟩
  · rw [List.length_drop]
    omega
  · exact fun l hl => hall l (List.mem_of_mem_drop hl)
  · exact Flags.isStricter_default hr.level
  · rintro ⟨p, ps, hp, -⟩
    cases hpieces.symm.trans hp
  · refine ⟨levels.take (fragment.toList.length + 1), ?_, ?_⟩
    · rw [List.take_append_drop]
      exact hlevels
    · have htake : (levels.take (fragment.toList.length + 1)).length =
          fragment.toList.length + 1 := by
        rw [List.length_take]
        omega
      have hsame : ∀ ls : List Level, (∀ l ∈ ls, l.flags.verbose = false) →
          List.Forall₂ (fun l m => Flags.IsStricter l.flags m.flags) ls
            (List.replicate ls.length (Level.start {})) := by
        intro ls hls
        rw [← List.map_const', List.forall₂_map_right_iff, List.forall₂_same]
        exact fun l hl => Flags.isStricter_default (hls l hl)
      have htaken := hsame (levels.take (fragment.toList.length + 1))
        fun l hl => hall l (List.mem_of_mem_take hl)
      rw [htake] at htaken
      exact htaken

theorem IsBroken.readAll_ne_ok (h : IsBroken fragment)
    (hr : Reading.IsStricter bottom r (.deep fragment)) :
    r.readAll (fragment.toList ++ ')' :: w) ≠ .ok r' := by
  intro hread
  obtain ⟨fault, hfault, hbroken⟩ := h (')' :: w) (.inr ⟨w, rfl⟩)
  rcases Reading.readAll_of_isStricter hr hread with ⟨q, hq, -⟩ | hunopened
  · cases hbroken.symm.trans hq
  · cases hbroken.symm.trans hunopened
    exact hfault rfl

theorem LeavesClassOpen.readAll_ne_ok (h : LeavesClassOpen fragment q)
    (hsteady : IsSteady (.deep fragment) fragment.toList) (hw : IsOpenEnded q.level.flags w)
    (hr : Reading.IsStricter bottom r (.deep fragment)) :
    r.readAll (fragment.toList ++ ')' :: w) ≠ .ok r' := by
  intro hread
  obtain ⟨t, hreach, hopen⟩ := h
  obtain ⟨r₁, hreach', hq⟩ := (hreach.append hsteady w).isStricter hr hread
  have hcalm := (hsteady.reached hreach).calm.suffix (List.suffix_cons '[' t)
  have hskip : r₁.level.flags.skip ('[' :: (t ++ ')' :: w)) = '[' :: (t ++ ')' :: w) :=
    skip_cons _ (by decide) (by decide) _
  rw [hreach'.readAll, List.cons_append, Reading.readAll_eq, hskip] at hread
  obtain ⟨found, hstep, -⟩ := Except.bind_eq_ok.mp hread
  obtain ⟨found, hclass, -⟩ := Except.bind_eq_ok.mp hstep
  obtain ⟨⟨set, depth, rest⟩, hclass', -⟩ := readClass_follows hq.level.flags _ found hclass
  obtain ⟨left, hleft⟩ := readClass_reflect hcalm hw hclass'
  exact hopen _ hleft

/-! ## What a fragment leaves behind -/

theorem Reading.IsStricter.isTerse (h : Reading.IsStricter bottom r q) (hq : q.IsTerse)
    (hbottom : ∀ l ∈ bottom, l.flags.verbose = false) : r.IsTerse := by
  obtain ⟨ls, houter, hls⟩ := h.outer
  have hfirst : ∀ {ls ms : List Level},
      List.Forall₂ (fun l m => Flags.IsStricter l.flags m.flags) ls ms →
        (∀ m ∈ ms, m.flags.verbose = false) → ∀ l ∈ ls, l.flags.verbose = false := by
    intro ls ms hls hms
    induction hls with
    | nil => exact hms
    | cons hl _ ih =>
      rw [List.forall_mem_cons] at hms ⊢
      exact ⟨hl.verbose.trans hms.1, ih hms.2⟩
  refine ⟨h.level.flags.verbose.trans hq.level, fun l hl => ?_⟩
  rw [houter, List.mem_append] at hl
  rcases hl with hl | hl
  · exact hfirst hls hq.outer l hl
  · exact hbottom l hl

theorem Reading.IsStricter.length_outer (h : Reading.IsStricter bottom r q) :
    r.outer.length = q.outer.length + bottom.length := by
  obtain ⟨ls, houter, hls⟩ := h.outer
  rw [houter, List.length_append, hls.length_eq]

/-- Where a line can be read on behind a settled fragment, the fragment has been read to the end of
its group, and the open groups are more by its surplus. -/
theorem IsSettled.exists_readAll (h : IsSettled fragment behind) (hr : r.IsTerse)
    (hw : ∀ flags, (∀ f ∈ behind, ']' ∉ f.toList ∧ IsCalm flags f.toList) → IsOpenEnded flags w)
    (hread : (r.openGroup r.level.flags).readAll (fragment.toList ++ ')' :: w) = .ok r') :
    (∃ r₁, readGrouped fragment = .ok r₁) ∧ ∃ (r₂ : Reading) (levels : List Level),
      r₂.readAll w = .ok (r'.inside levels []) ∧ (behind = [] ∨ r₂.IsTerse) ∧
        (r₂.outer.length : Int) = r.outer.length + levels.length + surplus fragment := by
  have hgroup : (r.openGroup r.level.flags).IsTerse := hr.openGroup hr.level
  obtain ⟨bottom, hlength, hbottom, hstricter⟩ := exists_isStricter_deep fragment hgroup rfl
  replace hread := Reading.readAll_inside_ok hread
    (List.replicate (fragment.toList.length + 1) (.start {})) []
  rcases h with hbroken | ⟨hsteady, ⟨q, hopen, hbehind⟩ | ⟨r₁, hgrouped, hterse⟩⟩
  · exact (hbroken.readAll_ne_ok hstricter hread).elim
  · exact (hopen.readAll_ne_ok hsteady (hw _ hbehind) hstricter hread).elim
  · obtain ⟨r₂, hreach, hr₂⟩ :=
      (Reading.reaches_paren hsteady hgrouped w).isStricter hstricter hread
    refine ⟨⟨r₁, hgrouped⟩, r₂, _, hreach.readAll ▸ hread, ?_, ?_⟩
    · exact hterse.imp_right fun h => hr₂.isTerse h hbottom
    · have houter : (r.openGroup r.level.flags).outer.length = r.outer.length + 1 := rfl
      rw [hr₂.length_outer, surplus_of_readGrouped hgrouped, hlength, houter, List.length_replicate]
      omega

/-! ## All fragments of a line -/

def AreSettled : List String → Prop
  | [] => True
  | f :: fs => IsSettled f fs ∧ AreSettled fs

/-- The fragments leave one another alone: they are settled, none of them closes a group around it
and opens another for it, and not one closes what another leaves open. -/
structure AreIndependent (fs : List String) : Prop where
  settled : AreSettled fs
  straight : ∀ f ∈ fs, ∀ r, readGrouped f = .ok r → surplus f = 0 → IsComplete f
  oneSided : (∀ f ∈ fs, 0 ≤ surplus f) ∨ ∀ f ∈ fs, surplus f ≤ 0

theorem AreSettled.exists_isWhole {fs : List String} (h : AreSettled fs) :
    ∀ f ∈ fs, IsComplete f → ∃ r, IsWhole f r := by
  induction fs with
  | nil => exact fun _ hf => absurd hf List.not_mem_nil
  | cons f fs ih =>
    refine List.forall_mem_cons.mpr ⟨?_, ih h.2⟩
    rintro ⟨r, hread, hclosed⟩
    rcases h.1 with hbroken | ⟨hsteady, -⟩
    · exact (hbroken.readAll_start_ne_ok hread).elim
    · exact ⟨r, hread, hclosed, isSteady_of_deep hsteady⟩

/-- Fragments that together close as many groups as they open do so each by itself. -/
theorem AreIndependent.isComplete {fs : List String} (h : AreIndependent fs)
    (hgrouped : ∀ f ∈ fs, ∃ r, readGrouped f = .ok r) (htotal : totalSurplus fs = 0) :
    ∀ f ∈ fs, IsComplete f := by
  have htotal_eq : ∀ fs, totalSurplus fs = (fs.map surplus).sum := by
    intro fs
    induction fs with
    | nil => rfl
    | cons f fs ih => rw [totalSurplus, ih, List.map_cons, List.sum_cons]
  have hsum := (htotal_eq fs).symm.trans htotal
  have hzero : ∀ f ∈ fs, surplus f = 0 := by
    rcases h.oneSided with hle | hge
    · exact List.forall_mem_map.mp fun n hn =>
        List.all_zero_of_le_zero_le_of_sum_eq_zero (List.forall_mem_map.mpr hle) hsum hn
    · have hneg : (fs.map fun f => -surplus f).sum = 0 := by
        rw [← neg_eq_zero, ← hsum, List.sum_neg, List.map_map]
        simp [Function.comp_def]
      intro f hf
      refine neg_eq_zero.mp (List.all_zero_of_le_zero_le_of_sum_eq_zero ?_ hneg
        (List.mem_map_of_mem hf))
      exact List.forall_mem_map.mpr fun g hg => Int.neg_nonneg_of_nonpos (hge g hg)
  intro f hf
  obtain ⟨r, hr⟩ := hgrouped f hf
  exact h.straight f hf r hr (hzero f hf)

end Conformance.Regex
