import Conformance.Catalog
import Mathlib.Data.List.Induction
import Mathlib.Data.String.Basic
import Mathlib.Tactic.Common

/-!
# What catalogs hold

A catalog is known by its lookups: every operation is described by what is found afterwards.
-/
namespace Conformance.Catalog

variable {β : Type} {m : Catalog β} {key key' : String} {value : β}

theorem lookup_cons_eq (key' : String) (e : String × β) (es : List (String × β)) :
    (e :: es).lookup key' = if key' = e.1 then some e.2 else es.lookup key' := by
  rw [List.lookup_cons]
  by_cases h : key' = e.1
  · simp [h]
  · simp [h, beq_eq_false_iff_ne.mpr h]

theorem lookup_insertEntry (key' key : String) (value : β) (es : List (String × β)) :
    (insertEntry key value es).lookup key' = if key' = key then some value else es.lookup key' := by
  induction es with
  | nil => exact lookup_cons_eq key' (key, value) []
  | cons e es ih =>
    simp only [insertEntry]
    split
    · exact lookup_cons_eq key' (key, value) (e :: es)
    · next hnot =>
      split
      · next hlt =>
        rw [lookup_cons_eq, ih, lookup_cons_eq]
        by_cases h : key' = e.1
        · have hne : key' ≠ key := h ▸ ne_of_lt hlt
          rw [if_pos h, if_neg hne, if_pos h]
        · rw [if_neg h, if_neg h]
      · next hnot' =>
        rw [lookup_cons_eq, lookup_cons_eq, eq_of_not_lt hnot hnot']
        split <;> rfl

@[simp] theorem keys_empty : (empty : Catalog β).keys = [] := rfl

theorem get?_insert (m : Catalog β) (key : String) (value : β) (key' : String) :
    (m.insert key value).get? key' = if key' = key then some value else m.get? key' :=
  lookup_insertEntry key' key value m.entries

@[simp] theorem get?_insert_self (m : Catalog β) (key : String) (value : β) :
    (m.insert key value).get? key = some value := by
  rw [get?_insert, if_pos rfl]

theorem get?_insert_of_ne (h : key' ≠ key) : (m.insert key value).get? key' = m.get? key' := by
  rw [get?_insert, if_neg h]

theorem mem_keys : key ∈ m.keys ↔ ∃ value, m.get? key = some value := by
  rw [← Option.isSome_iff_exists, get?, List.lookup_isSome_iff, keys, List.mem_map]
  exact exists_congr fun e => and_congr_right fun _ => by rw [beq_iff_eq, eq_comm]

theorem mem_keys_insert : key' ∈ (m.insert key value).keys ↔ key' = key ∨ key' ∈ m.keys := by
  by_cases h : key' = key <;> simp [mem_keys, get?_insert, h]

theorem mem_keys_ofList {pairs : List (String × β)} :
    key ∈ (ofList pairs).keys ↔ ∃ value, (key, value) ∈ pairs := by
  induction pairs using List.reverseRecOn with
  | nil => simp [ofList]
  | append_singleton pairs pair ih =>
    have hconcat : ofList (pairs ++ [pair]) = (ofList pairs).insert pair.1 pair.2 :=
      List.foldl_concat ..
    rw [hconcat, mem_keys_insert, ih]
    simp [Prod.ext_iff, exists_or, or_comm]

@[simp] theorem length_keys : m.keys.length = m.size :=
  List.length_map ..

theorem lookup_of_lt {es : List (String × β)} (h : ∀ e ∈ es, key < e.1) : es.lookup key = none := by
  exact List.lookup_eq_none_iff.mpr fun e he => bne_iff_ne.mpr (ne_of_lt (h e he))

theorem not_lt_of_lookup_eq {e f : String × β} {es fs : List (String × β)}
    (hfs : (f :: fs).Pairwise (fun a b => a.1 < b.1))
    (h : ∀ key, (e :: es).lookup key = (f :: fs).lookup key) : ¬ e.1 < f.1 := by
  intro hlt
  have hnone : (f :: fs).lookup e.1 = none := lookup_of_lt (List.forall_mem_cons.mpr
    ⟨hlt, fun g hg => lt_trans hlt ((List.pairwise_cons.mp hfs).1 g hg)⟩)
  have hkey := h e.1
  rw [lookup_cons_eq, if_pos rfl, hnone] at hkey
  cases hkey

theorem eq_of_lookup_eq {es fs : List (String × β)} (hes : es.Pairwise (fun a b => a.1 < b.1))
    (hfs : fs.Pairwise (fun a b => a.1 < b.1)) (h : ∀ key, es.lookup key = fs.lookup key) :
    es = fs := by
  induction es generalizing fs with
  | nil =>
    cases fs with
    | nil => rfl
    | cons f fs =>
      have hkey := h f.1
      rw [lookup_cons_eq, if_pos rfl] at hkey
      cases hkey
  | cons e es ih =>
    cases fs with
    | nil =>
      have hkey := h e.1
      rw [lookup_cons_eq, if_pos rfl] at hkey
      cases hkey
    | cons f fs =>
      have hsame : e.1 = f.1 := eq_of_not_lt (not_lt_of_lookup_eq hfs h)
        (not_lt_of_lookup_eq hes fun key => (h key).symm)
      rw [List.pairwise_cons] at hes hfs
      have hhead : e = f := by
        have hkey := h e.1
        rw [lookup_cons_eq, lookup_cons_eq, if_pos rfl, if_pos hsame] at hkey
        exact Prod.ext hsame (Option.some.inj hkey)
      subst hhead
      refine congrArg (e :: ·) (ih hes.2 hfs.2 fun key => ?_)
      by_cases hkey : key = e.1
      · subst hkey
        rw [lookup_of_lt hes.1, lookup_of_lt hfs.1]
      · have hrest := h key
        rwa [lookup_cons_eq, lookup_cons_eq, if_neg hkey, if_neg hkey] at hrest

/-- The names are in ascending order, so each of them stands there once. -/
theorem pairwise_keys (m : Catalog β) : m.keys.Pairwise (· < ·) :=
  List.pairwise_map.mpr m.sorted

/-- The values that pairs have for a name, in order. -/
def valuesOf (pairs : List (String × β)) (key : String) : List β :=
  pairs.filterMap fun pair => if pair.1 = key then some pair.2 else none

/-- Of several values for a name the last one is found. -/
theorem get?_ofList (pairs : List (String × β)) (key : String) :
    (ofList pairs).get? key = (valuesOf pairs key).getLast? := by
  induction pairs using List.reverseRecOn with
  | nil => rfl
  | append_singleton pairs pair ih =>
    have hconcat : ofList (pairs ++ [pair]) = (ofList pairs).insert pair.1 pair.2 :=
      List.foldl_concat ..
    have hvalues : valuesOf (pairs ++ [pair]) key =
        valuesOf pairs key ++ (if pair.1 = key then [pair.2] else []) := by
      rw [valuesOf, List.filterMap_append, valuesOf]
      split <;> simp [*]
    rw [hconcat, get?_insert, hvalues]
    by_cases h : pair.1 = key
    · simp [h]
    · simp [h, Ne.symm h, ih]

theorem valuesOf_entries (m : Catalog β) (key : String) :
    valuesOf m.entries key = (m.get? key).toList := by
  obtain ⟨es, hes⟩ := m
  show valuesOf es key = (es.lookup key).toList
  induction es with
  | nil => rfl
  | cons e es ih =>
    rw [List.pairwise_cons] at hes
    have hcons : valuesOf (e :: es) key =
        (if e.1 = key then [e.2] else []) ++ valuesOf es key := by
      rw [valuesOf, List.filterMap_cons, valuesOf]
      split <;> simp_all
    rw [hcons, ih hes.2, lookup_cons_eq]
    by_cases h : e.1 = key
    · subst h
      rw [if_pos rfl, if_pos rfl, lookup_of_lt hes.1]
      rfl
    · rw [if_neg h, if_neg (Ne.symm h), List.nil_append]

theorem ext_get? {m' : Catalog β} (h : ∀ key, m.get? key = m'.get? key) : m = m' := by
  obtain ⟨es, hes⟩ := m
  obtain ⟨fs, hfs⟩ := m'
  obtain rfl := eq_of_lookup_eq hes hfs h
  rfl

end Conformance.Catalog
