import Conformance.Proofs.Text.Order
import Conformance.Proofs.Time.Order

/-!
# The latest of several identifiers

Which identifier is the latest depends on the stamped ones in a list alone, not on their order nor on
how often each of them is there. The latest of two lists together is the greater one of their latest.
-/
namespace Conformance.Stamp

variable {a b : Moment × String} {ids ids' : List String}

/-- Of two identifiers with their moments the first one is less: it has the earlier moment, or the
same moment and the lesser bytes. -/
def Precedes (a b : Moment × String) : Prop :=
  a.1 < b.1 ∨ a.1 = b.1 ∧ Text.toBytes a.2 < Text.toBytes b.2

instance : DecidableRel Precedes :=
  fun a b => inferInstanceAs
    (Decidable (a.1 < b.1 ∨ a.1 = b.1 ∧ Text.toBytes a.2 < Text.toBytes b.2))

theorem precedes_iff : Precedes a b ↔ toLex a < toLex b := by
  rw [Precedes, Text.toBytes_lt_iff, Prod.Lex.toLex_lt_toLex]

theorem toLex_le_iff : toLex a ≤ toLex b ↔
    a.1 ≤ b.1 ∧ (a.1 = b.1 → Text.toBytes a.2 ≤ Text.toBytes b.2) := by
  rw [Prod.Lex.toLex_le_toLex']
  simp only [Text.toBytes_le_iff]

/-- The greater of two results, where no result is less than any. -/
def greater : Option (Moment × String) → Option (Moment × String) → Option (Moment × String) :=
  Option.merge fun a b => if Precedes a b then b else a

theorem latest?_congr_stamped (h : ∀ id t, parse id = some t → (id ∈ ids ↔ id ∈ ids')) :
    latest? ids = latest? ids' := by
  apply Option.ext
  intro e
  rw [latest?_eq_some, latest?_eq_some]
  constructor
  · rintro ⟨hmem, hparse, hmax⟩
    exact ⟨(h _ _ hparse).mp hmem, hparse, fun id hid t ht => hmax id ((h id t ht).mpr hid) t ht⟩
  · rintro ⟨hmem, hparse, hmax⟩
    exact ⟨(h _ _ hparse).mpr hmem, hparse, fun id hid t ht => hmax id ((h id t ht).mp hid) t ht⟩

theorem latest?_append_of_unstamped (h : ∀ id ∈ ids', parse id = none) :
    latest? (ids ++ ids') = latest? ids := by
  refine latest?_congr_stamped fun id t hparse => ?_
  rw [List.mem_append, or_iff_left]
  intro hid
  rw [h id hid] at hparse
  cases hparse

/-- Where what is latest in one list is not less than what is latest in another, it is the latest of
both together. -/
theorem latest?_append_of_le (ha : latest? ids = some a) (hb : latest? ids' = some b)
    (hle : toLex b ≤ toLex a) : latest? (ids ++ ids') = some a := by
  obtain ⟨hmem, hparse, hmax⟩ := latest?_eq_some.mp ha
  obtain ⟨-, -, hmax'⟩ := latest?_eq_some.mp hb
  refine latest?_eq_some.mpr ⟨List.mem_append_left _ hmem, hparse, fun id hid t ht => ?_⟩
  rcases List.mem_append.mp hid with hid | hid
  · exact hmax id hid t ht
  · exact (hmax' id hid t ht).trans hle

theorem latest?_append_comm (ids ids' : List String) :
    latest? (ids ++ ids') = latest? (ids' ++ ids) := by
  refine latest?_congr_stamped fun id t _ => ?_
  rw [List.mem_append, List.mem_append, or_comm]

theorem latest?_append (ids ids' : List String) :
    latest? (ids ++ ids') = greater (latest? ids) (latest? ids') := by
  cases ha : latest? ids with
  | none =>
    rw [latest?_append_comm, latest?_append_of_unstamped (latest?_eq_none.mp ha)]
    cases latest? ids' <;> rfl
  | some a =>
    cases hb : latest? ids' with
    | none => rw [latest?_append_of_unstamped (latest?_eq_none.mp hb), ha]; rfl
    | some b =>
      simp only [greater, Option.merge_some_some]
      by_cases h : Precedes a b
      · rw [if_pos h, latest?_append_comm]
        exact latest?_append_of_le hb ha (precedes_iff.mp h).le
      · rw [if_neg h]
        exact latest?_append_of_le ha hb (not_lt.mp (precedes_iff.not.mp h))

/-- There is a latest identifier as soon as one has a stamp. It is one of the list, no stamp is later
than its own, and of the identifiers with that stamp it has the greatest bytes. It stays the same in
any order, and when identifiers are there more often or others without a stamp are added. Of two
lists together it is the greater one of the latest of each. -/
theorem latest?_selects :
    (∀ ids, latest? ids = none ↔ ∀ id ∈ ids, parse id = none) ∧
    (∀ ids t id, latest? ids = some (t, id) ↔ id ∈ ids ∧ parse id = some t ∧
      ∀ id' ∈ ids, ∀ t', parse id' = some t' →
        t' ≤ t ∧ (t' = t → Text.toBytes id' ≤ Text.toBytes id)) ∧
    (∀ ids ids' : List String, ids.Perm ids' → latest? ids = latest? ids') ∧
    (∀ ids copies : List String, copies ⊆ ids → latest? (ids ++ copies) = latest? ids) ∧
    (∀ ids others : List String, (∀ id ∈ others, parse id = none) →
      latest? (ids ++ others) = latest? ids) ∧
    ∀ ids ids' : List String, latest? (ids ++ ids') = greater (latest? ids) (latest? ids') := by
  refine ⟨fun ids => latest?_eq_none, fun ids t id => ?_, fun ids ids' hperm => ?_,
    fun ids copies hsub => ?_, fun ids others => latest?_append_of_unstamped, latest?_append⟩
  · simp only [latest?_eq_some, toLex_le_iff]
  · exact latest?_congr_stamped fun id t _ => hperm.mem_iff
  · refine latest?_congr_stamped fun id t _ => ?_
    rw [List.mem_append, or_iff_left_of_imp (@hsub id)]

/-- Two identifiers of one moment, of which the one in small letters has the greater bytes. -/
theorem latest?_selects_tie :
    latest? ["SW1_2024-05-01_0900", "notes.txt", "sw1_2024-05-01_0900", "sw2_2024-04-30_2359"] =
      some (⟨2024, 5, 1, 9, 0, 0⟩, "sw1_2024-05-01_0900") ∧
    (∀ ids : List String, ids.Perm
        ["SW1_2024-05-01_0900", "notes.txt", "sw1_2024-05-01_0900", "sw2_2024-04-30_2359"] →
      latest? ids = some (⟨2024, 5, 1, 9, 0, 0⟩, "sw1_2024-05-01_0900")) ∧
    latest? (["SW1_2024-05-01_0900", "notes.txt", "sw1_2024-05-01_0900", "sw2_2024-04-30_2359"] ++
      ["SW1_2024-05-01_0900"]) = some (⟨2024, 5, 1, 9, 0, 0⟩, "sw1_2024-05-01_0900") ∧
    latest? (["SW1_2024-05-01_0900", "notes.txt", "sw1_2024-05-01_0900", "sw2_2024-04-30_2359"] ++
      ["readme"]) = some (⟨2024, 5, 1, 9, 0, 0⟩, "sw1_2024-05-01_0900") := by
  obtain ⟨-, -, hperm, hcopies, hothers, -⟩ := latest?_selects
  have hlatest : latest? ["SW1_2024-05-01_0900", "notes.txt", "sw1_2024-05-01_0900",
      "sw2_2024-04-30_2359"] = some (⟨2024, 5, 1, 9, 0, 0⟩, "sw1_2024-05-01_0900") := by
    decide +kernel
  refine ⟨hlatest, fun ids h => (hperm _ _ h).trans hlatest, ?_, ?_⟩
  · exact (hcopies _ _ (by simp)).trans hlatest
  · have hreadme : ∀ id ∈ ["readme"], parse id = none := by decide +kernel
    exact (hothers _ _ hreadme).trans hlatest

end Conformance.Stamp
