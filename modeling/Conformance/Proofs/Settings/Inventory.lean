import Conformance.Proofs.Text.Blank
import Conformance.Settings.Problem
import Mathlib.Data.List.Nodup

/-!
# Devices of accepted settings

Settings without problems have safe names for all their devices, blanks at the ends of names
included: cutting blanks away uncovers no slash and no point that was not there. Names that differ
when blanks are cut away differ anyway.
-/
namespace Conformance

namespace Settings

theorem isUnsafe_trim {name : String} (h : isUnsafe name = true) :
    isUnsafe (Text.trim name) = true := by
  simp only [isUnsafe, Bool.or_eq_true, List.contains_iff_mem, beq_iff_eq, Text.trim,
    String.toList_ofList, Text.trimList] at h ⊢
  rcases h with (h | h) | h
  · exact .inl (.inl (Text.mem_stripList (by decide) h))
  · exact .inl (.inr (Text.mem_stripList (by decide) h))
  · exact .inr (Text.head?_stripList (by decide) h)

theorem safe_of_inventoryProblems {entries : List InventoryEntry} {seen : List String}
    {position : Nat} (h : inventoryProblems seen position entries = []) :
    ∀ entry ∈ entries, isUnsafe entry.name = false := by
  induction entries generalizing seen position with
  | nil =>
    intro entry hentry
    cases hentry
  | cons entry entries ih =>
    rw [inventoryProblems] at h
    split at h
    · cases h
    · simp only [List.append_eq_nil_iff] at h
      refine List.forall_mem_cons.mpr ⟨?_, ih h.2⟩
      apply Bool.eq_false_iff.mpr
      intro hunsafe
      have hproblem := h.1.1
      rw [if_pos (isUnsafe_trim hunsafe)] at hproblem
      cases hproblem

theorem nodup_of_inventoryProblems {entries : List InventoryEntry} {seen : List String}
    {position : Nat} (h : inventoryProblems seen position entries = []) :
    (entries.map fun entry => Text.trim entry.name).Nodup ∧
      ∀ entry ∈ entries, Text.trim entry.name ∉ seen := by
  induction entries generalizing seen position with
  | nil => simp
  | cons entry entries ih =>
    rw [inventoryProblems] at h
    split at h
    · cases h
    · simp only [List.append_eq_nil_iff] at h
      obtain ⟨⟨-, hseen⟩, hrest⟩ := h
      have hseen : Text.trim entry.name ∉ seen := by
        intro hmem
        rw [if_pos (List.contains_iff_mem.mpr hmem)] at hseen
        cases hseen
      obtain ⟨hnodup, hall⟩ := ih hrest
      refine ⟨List.nodup_cons.mpr ⟨?_, hnodup⟩, ?_⟩
      · rintro hmem
        obtain ⟨other, hother, heq⟩ := List.mem_map.mp hmem
        exact hall other hother (by simp [heq])
      · rintro other (_ | ⟨_, hother⟩)
        · exact hseen
        · exact fun hmem => hall other hother (List.mem_cons_of_mem _ hmem)

/-- What an inventory has no problem with, it has no problem with in one of its devices alone. -/
theorem inventoryProblems_singleton {entries : List InventoryEntry} {seen : List String}
    {position : Nat} (h : inventoryProblems seen position entries = []) :
    ∀ entry ∈ entries, inventoryProblems [] 0 [⟨entry.name, ""⟩] = [] := by
  induction entries generalizing seen position with
  | nil => simp
  | cons entry entries ih =>
    rw [inventoryProblems] at h
    split at h
    · cases h
    · next hblank =>
      simp only [List.append_eq_nil_iff] at h
      refine List.forall_mem_cons.mpr ⟨?_, ih h.2⟩
      rw [inventoryProblems, if_neg hblank, h.1.1]
      rfl

theorem nodup_names {s : Settings} (h : inventoryProblems [] 0 s.inventory = []) :
    (s.devices.map Device.name).Nodup := by
  have htrim : (s.devices.map Device.name).map Text.trim =
      s.inventory.map fun entry => Text.trim entry.name := by
    simp [devices, device]
  exact .of_map Text.trim (htrim ▸ (nodup_of_inventoryProblems h).1)

theorem inventory_of_problems {s : Settings} (h : s.problems = []) :
    inventoryProblems [] 0 s.inventory = [] := by
  simp only [problems, List.append_eq_nil_iff] at h
  exact h.1.1.2

end Settings
end Conformance
