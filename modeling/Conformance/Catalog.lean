/-!
# Catalogs

Finite maps from names to values, in ascending order of the names. Two catalogs with the same values
under the same names are equal, so the order in which entries were put in leaves no trace.
-/
namespace Conformance

structure Catalog (β : Type) where
  entries : List (String × β)
  sorted : entries.Pairwise (fun a b => a.1 < b.1)

namespace Catalog
variable {β : Type}

def insertEntry (key : String) (value : β) : List (String × β) → List (String × β)
  | [] => [(key, value)]
  | e :: es =>
    if key < e.1 then (key, value) :: e :: es
    else if e.1 < key then e :: insertEntry key value es
    else (key, value) :: es

theorem eq_of_not_lt {a b : String} (hab : ¬ a < b) (hba : ¬ b < a) : a = b :=
  String.le_antisymm (String.not_lt.mp hba) (String.not_lt.mp hab)

theorem mem_insertEntry {key : String} {value : β} {e : String × β} {es : List (String × β)}
    (h : e ∈ insertEntry key value es) : e = (key, value) ∨ e ∈ es := by
  induction es with
  | nil => simpa [insertEntry] using h
  | cons a as ih =>
    simp only [insertEntry] at h
    split at h
    · simpa using h
    · split at h
      · rcases List.mem_cons.mp h with h | h
        · simp [h]
        · rcases ih h with h | h <;> simp [h]
      · rcases List.mem_cons.mp h with h | h <;> simp [h]

theorem sorted_insertEntry (key : String) (value : β) {es : List (String × β)}
    (h : es.Pairwise (fun a b => a.1 < b.1)) :
    (insertEntry key value es).Pairwise (fun a b => a.1 < b.1) := by
  induction es with
  | nil => simp [insertEntry]
  | cons a as ih =>
    rw [List.pairwise_cons] at h
    simp only [insertEntry]
    split
    · next hlt =>
      refine List.pairwise_cons.mpr ⟨fun b hb => ?_, List.pairwise_cons.mpr h⟩
      rcases List.mem_cons.mp hb with rfl | hb
      · exact hlt
      · exact String.lt_trans hlt (h.1 b hb)
    · next hnot =>
      split
      · next hlt =>
        refine List.pairwise_cons.mpr ⟨fun b hb => ?_, ih h.2⟩
        rcases mem_insertEntry hb with rfl | hb
        · exact hlt
        · exact h.1 b hb
      · next hnot' =>
        rw [← eq_of_not_lt hnot hnot'] at h
        exact List.pairwise_cons.mpr h

def empty : Catalog β :=
  ⟨[], .nil⟩

instance : Inhabited (Catalog β) := ⟨empty⟩

/-- Puts a value under a name, in place of any value there. -/
def insert (m : Catalog β) (key : String) (value : β) : Catalog β :=
  ⟨insertEntry key value m.entries, sorted_insertEntry key value m.sorted⟩

def get? (m : Catalog β) (key : String) : Option β :=
  m.entries.lookup key

def contains (m : Catalog β) (key : String) : Bool :=
  (m.get? key).isSome

def erase (m : Catalog β) (key : String) : Catalog β :=
  ⟨m.entries.filter (·.1 != key), m.sorted.filter _⟩

def keys (m : Catalog β) : List String :=
  m.entries.map Prod.fst

def size (m : Catalog β) : Nat :=
  m.entries.length

/-- Of several values for one name the last one counts. -/
def ofList (pairs : List (String × β)) : Catalog β :=
  pairs.foldl (fun m (key, value) => m.insert key value) empty

end Catalog
end Conformance
