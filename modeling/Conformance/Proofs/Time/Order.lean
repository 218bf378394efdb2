import Conformance.Time.Freshness
import Conformance.Time.Stamp
import Mathlib.Data.List.Lex
import Mathlib.Data.Prod.Lex
import Mathlib.Data.String.Basic
import Mathlib.Order.Lattice
import Mathlib.Tactic.Common

/-!
# The order of moments

Moments are linearly ordered, and so are identifiers by their moments first and their texts second.
The latest of several is the greatest in that order.
-/
namespace Conformance

namespace Moment

theorem parts_injective : Function.Injective parts := by
  rintro ⟨year, month, day, hour, minute, second⟩ ⟨year', month', day', hour', minute', second'⟩ h
  simp only [parts, List.cons.injEq, Int.natCast_inj, and_true] at h
  obtain ⟨rfl, rfl, rfl, rfl, rfl, rfl⟩ := h
  rfl

instance : LinearOrder Moment :=
  LinearOrder.lift' parts parts_injective

theorem partsBefore_iff {as bs : List Int} (h : as.length = bs.length) :
    partsBefore as bs = true ↔ as < bs := by
  induction as generalizing bs with
  | nil =>
    cases bs with
    | nil => simp [partsBefore]
    | cons b bs => cases h
  | cons a as ih =>
    cases bs with
    | nil => cases h
    | cons b bs =>
      simp only [partsBefore, Bool.or_eq_true, Bool.and_eq_true, decide_eq_true_eq, beq_iff_eq,
        ih (Nat.succ.inj h), List.cons_lt_cons_iff]

theorem isBefore_iff {a b : Moment} : a.isBefore b = true ↔ a < b :=
  partsBefore_iff rfl

theorem isBefore_eq_false_iff {a b : Moment} : a.isBefore b = false ↔ b ≤ a := by
  rw [← not_lt, ← isBefore_iff, Bool.not_eq_true]

theorem latest_eq_max (a b : Moment) : a.latest b = max a b := by
  rw [latest]
  by_cases h : a < b
  · rw [if_pos (isBefore_iff.mpr h), max_eq_right h.le]
  · rw [if_neg (isBefore_iff.not.mpr h), max_eq_left (not_lt.mp h)]

end Moment

namespace Freshness

theorem evaluate_eq_upToDate {snapshot : Moment} {report : Option Moment} :
    evaluate (some snapshot) report false = upToDate ↔ ∃ r, report = some r ∧ snapshot ≤ r := by
  cases report with
  | none => simp [evaluate]
  | some r =>
    simp only [evaluate, Bool.false_eq_true, if_false, Option.some.injEq, exists_eq_left']
    cases h : r.isBefore snapshot with
    | true => simpa using Moment.isBefore_iff.mp h
    | false => simpa using Moment.isBefore_eq_false_iff.mp h

theorem evaluate_eq_stale {snapshot : Moment} {report : Option Moment} :
    evaluate (some snapshot) report false = stale ↔ ∀ r, report = some r → r < snapshot := by
  cases report with
  | none => simp [evaluate]
  | some r =>
    simp only [evaluate, Bool.false_eq_true, if_false, Option.some.injEq, forall_eq']
    cases h : r.isBefore snapshot with
    | true => simpa using Moment.isBefore_iff.mp h
    | false => simpa using Moment.isBefore_eq_false_iff.mp h

end Freshness

namespace Stamp

theorem later_eq_max (a b : Moment × String) : toLex (later a b) = max (toLex a) (toLex b) := by
  have hiff : (a.1.isBefore b.1 || (a.1 == b.1 && a.2 < b.2)) = true ↔ toLex a < toLex b := by
    rw [Prod.Lex.toLex_lt_toLex, Bool.or_eq_true, Bool.and_eq_true, Moment.isBefore_iff,
      beq_iff_eq, decide_eq_true_iff]
  rw [later]
  by_cases h : toLex a < toLex b
  · rw [if_pos (hiff.mpr h), max_eq_right h.le]
  · rw [if_neg (hiff.not.mpr h), max_eq_left (not_lt.mp h)]

/-- The latest of a list is one of it and not before any of it. -/
theorem foldl_later (first : Moment × String) (rest : List (Moment × String)) :
    rest.foldl later first ∈ first :: rest ∧
      ∀ b ∈ first :: rest, toLex b ≤ toLex (rest.foldl later first) := by
  induction rest generalizing first with
  | nil => simp
  | cons a rest ih =>
    obtain ⟨hmem, hmax⟩ := ih (later first a)
    have hle : max (toLex first) (toLex a) ≤ toLex (rest.foldl later (later first a)) :=
      later_eq_max first a ▸ hmax _ List.mem_cons_self
    constructor
    · rcases List.mem_cons.mp hmem with h | h
      · rw [List.foldl_cons, h, later]
        split <;> simp
      · exact List.mem_cons_of_mem _ (List.mem_cons_of_mem _ h)
    · intro b hb
      rcases List.mem_cons.mp hb with rfl | hb
      · exact (le_max_left _ _).trans hle
      · rcases List.mem_cons.mp hb with rfl | hb
        · exact (le_max_right _ _).trans hle
        · exact hmax b (List.mem_cons_of_mem _ hb)

theorem mem_stamped {ids : List String} {e : Moment × String} :
    e ∈ (ids.filterMap fun id => (parse id).map fun t => (t, id)) ↔
      e.2 ∈ ids ∧ parse e.2 = some e.1 := by
  obtain ⟨t, id⟩ := e
  simp only [List.mem_filterMap, Option.map_eq_some_iff, Prod.mk.injEq]
  constructor
  · rintro ⟨id', hmem, t', hparse, rfl, rfl⟩
    exact ⟨hmem, hparse⟩
  · rintro ⟨hmem, hparse⟩
    exact ⟨id, hmem, t, hparse, rfl, rfl⟩

theorem latest?_eq_none {ids : List String} :
    latest? ids = none ↔ ∀ id ∈ ids, parse id = none := by
  have hiff : latest? ids = none ↔
      (ids.filterMap fun id => (parse id).map fun t => (t, id)) = [] := by
    rw [latest?]
    split <;> simp_all
  rw [hiff, List.filterMap_eq_nil_iff]
  exact forall₂_congr fun id _ => Option.map_eq_none_iff

/-- Which identifier is the latest: one with a stamp that no other comes after. -/
theorem latest?_eq_some {ids : List String} {e : Moment × String} :
    latest? ids = some e ↔ e.2 ∈ ids ∧ parse e.2 = some e.1 ∧
      ∀ id ∈ ids, ∀ t, parse id = some t → toLex (t, id) ≤ toLex e := by
  have hspec : ∀ e', latest? ids = some e' → (e'.2 ∈ ids ∧ parse e'.2 = some e'.1) ∧
      ∀ id ∈ ids, ∀ t, parse id = some t → toLex (t, id) ≤ toLex e' := by
    intro e' he'
    rw [latest?] at he'
    split at he'
    · cases he'
    · next first rest heq =>
      cases he'
      obtain ⟨hmem, hmax⟩ := foldl_later first rest
      rw [← heq] at hmem hmax
      exact ⟨mem_stamped.mp hmem, fun id hid t ht => hmax (t, id) (mem_stamped.mpr ⟨hid, ht⟩)⟩
  constructor
  · intro h
    exact ⟨(hspec e h).1.1, (hspec e h).1.2, (hspec e h).2⟩
  · rintro ⟨hmem, hparse, hmax⟩
    cases hl : latest? ids with
    | none => exact absurd (latest?_eq_none.mp hl e.2 hmem) (by simp [hparse])
    | some e' =>
      obtain ⟨⟨hmem', hparse'⟩, hmax'⟩ := hspec e' hl
      exact congrArg some (toLex.injective
        (le_antisymm (hmax e'.2 hmem' e'.1 hparse') (hmax' e.2 hmem e.1 hparse)))

theorem lt_of_latest?_lt {ids : List String} {t u : Moment} {id : String}
    (h : ∀ e, latest? ids = some e → e.1 < t) (hid : id ∈ ids) (hparse : parse id = some u) :
    u < t := by
  cases hl : latest? ids with
  | none => exact absurd (latest?_eq_none.mp hl id hid) (by simp [hparse])
  | some e =>
    have hle := (latest?_eq_some.mp hl).2.2 id hid u hparse
    exact lt_of_le_of_lt (Prod.Lex.monotone_fst _ _ hle) (h e hl)

end Stamp
end Conformance
