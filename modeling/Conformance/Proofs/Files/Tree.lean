import Conformance.Files.Tree
import Conformance.Proofs.Catalog
import Conformance.Proofs.Except
import Conformance.Proofs.Files.Path

/-!
# What file trees hold

An operation is described by what is at each place afterwards. Where paths lead depends on the
directories only, and while these stay, so does every place that a path has led to.
-/
namespace Conformance

namespace FileTree

variable {t t' t'' : FileTree} {p : Path} {place q : Place} {name : String} {e : Entry}
  {bytes : List UInt8} {steps : List String}

/-! ## Entries -/

theorem at?_of_ne_nil (h : place ≠ []) : t.at? place = t.entries.lookup place := by
  cases place with
  | nil => exact absurd rfl h
  | cons name place => rfl

theorem lookup_filter_ne (place q : Place) (entries : List (Place × Entry)) :
    (entries.filter (·.1 != place)).lookup q = if q = place then none else entries.lookup q := by
  induction entries with
  | nil => simp
  | cons entry entries ih =>
    by_cases hplace : entry.1 = place
    · rw [List.filter_cons_of_neg (by simpa using hplace), ih]
      split
      · rfl
      · next hne => rw [List.lookup_cons, beq_eq_false_iff_ne.mpr fun heq => hne (heq.trans hplace)]
    · rw [List.filter_cons_of_pos (by simpa using hplace), List.lookup_cons, List.lookup_cons, ih]
      by_cases hq : q = entry.1
      · subst hq
        simp [hplace]
      · simp [beq_eq_false_iff_ne.mpr hq]

theorem at?_put (hplace : place ≠ []) (q : Place) :
    (t.put place e).at? q = if q = place then some e else t.at? q := by
  cases q with
  | nil => rw [if_neg (Ne.symm hplace)]; rfl
  | cons name q =>
    have hlookup : (t.put place e).at? (name :: q) =
        ((place, e) :: t.entries.filter (·.1 != place)).lookup (name :: q) := rfl
    rw [hlookup, List.lookup_cons, lookup_filter_ne]
    by_cases hq : name :: q = place
    · simp [hq]
    · simp [hq, beq_eq_false_iff_ne.mpr hq, at?]

theorem at?_erase (hplace : place ≠ []) (q : Place) :
    (t.erase place).at? q = if q = place then none else t.at? q := by
  cases q with
  | nil => rw [if_neg (Ne.symm hplace)]; rfl
  | cons name q => exact lookup_filter_ne place (name :: q) t.entries

theorem mem_of_at? (h : t.at? (place ++ [name]) = some e) : (place ++ [name], e) ∈ t.entries := by
  rw [at?_of_ne_nil (by simp), List.lookup_eq_some_iff] at h
  obtain ⟨before, after, hentries, -⟩ := h
  rw [hentries]
  exact List.mem_append_right _ List.mem_cons_self

theorem mem_namesAt : name ∈ t.namesAt place ↔ ∃ e, (place ++ [name], e) ∈ t.entries := by
  rw [namesAt, Catalog.mem_keys_ofList]
  constructor
  · rintro ⟨⟨⟩, h⟩
    rw [List.mem_filterMap] at h
    obtain ⟨⟨p, e⟩, hmem, h⟩ := h
    simp only [Option.ite_none_right_eq_some, beq_iff_eq, Option.map_eq_some_iff, Prod.mk.injEq,
      and_true, exists_eq_right] at h
    obtain ⟨rfl, hlast⟩ := h
    exact ⟨e, by rwa [List.dropLast_append_getLast? name hlast]⟩
  · rintro ⟨e, hmem⟩
    refine ⟨(), List.mem_filterMap.mpr ⟨_, hmem, ?_⟩⟩
    simp

theorem mem_filesAt :
    name ∈ t.filesAt place ↔ ∃ bytes, t.at? (place ++ [name]) = some (.file bytes) := by
  rw [filesAt, List.mem_filter, mem_namesAt]
  constructor
  · rintro ⟨-, h⟩
    split at h
    · next bytes hat => exact ⟨bytes, hat⟩
    · cases h
  · rintro ⟨bytes, hat⟩
    exact ⟨⟨_, mem_of_at? hat⟩, by simp [hat]⟩

/-- Entries have proper names, and lie in directories. -/
def IsSound (t : FileTree) : Prop :=
  ∀ entry ∈ t.entries, t.at? entry.1.dropLast = some .directory ∧
    ∀ name ∈ entry.1.getLast?, Path.IsName name

instance (t : FileTree) : Decidable t.IsSound :=
  inferInstanceAs (Decidable (∀ entry ∈ t.entries, t.at? entry.1.dropLast = some .directory ∧
    ∀ name ∈ entry.1.getLast?, Path.IsName name))

theorem IsSound.directory (h : t.IsSound) (hat : t.at? (place ++ [name]) = some e) :
    t.at? place = some .directory := by
  have hentry := (h _ (mem_of_at? hat)).1
  rwa [List.dropLast_concat] at hentry

theorem IsSound.isName (h : t.IsSound) (hat : t.at? (place ++ [name]) = some e) :
    Path.IsName name :=
  (h _ (mem_of_at? hat)).2 name (by simp)

theorem IsSound.directory_of_prefix (h : t.IsSound) (hat : t.at? q = some e) (hlt : place <+: q)
    (hne : place ≠ q) : t.at? place = some .directory := by
  obtain ⟨rest, rfl⟩ := hlt
  induction rest using List.reverseRecOn generalizing e with
  | nil => exact absurd (List.append_nil place).symm hne
  | append_singleton rest name ih =>
    rw [← List.append_assoc] at hat
    have hdirectory := h.directory hat
    by_cases hrest : rest = []
    · rwa [hrest, List.append_nil] at hdirectory
    · exact ih hdirectory (by simpa using hrest)

end FileTree
end Conformance
