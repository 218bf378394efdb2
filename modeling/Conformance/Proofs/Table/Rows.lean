import Conformance.Proofs.Catalog
import Conformance.Proofs.Except
import Conformance.Proofs.Table.Record
import Conformance.Table.Lookup
import Mathlib.Data.Set.Card

/-!
# Rows that make a table

Each row is blank, or it has a value for a key, or something is wrong with it. Rows make a table if
nothing is wrong with any of them; else the first that is wrong is reported. A table holds the last
value that its rows have for each of their keys.
-/
namespace Conformance.Table

variable {row : Row} {rows : List Row} {table start : Catalog String} {cause : TableError}
  {key value : String}

def Row.IsBlank (row : Row) : Prop :=
  ∃ cells, row.cells = some cells ∧ ∀ cell ∈ cells, cell = ""

def Row.HasEntry (row : Row) (key value : String) : Prop :=
  row.cells = some [key, value] ∧ key ≠ ""

/-- What is wrong with a row. Its width is looked at before its key. -/
inductive Row.IsAtFault : Row → TableError → Prop
  | undecodable (line : Nat) : IsAtFault ⟨line, none⟩ .undecodable
  | malformed (line : Nat) {cells : List String} : (∃ cell ∈ cells, cell ≠ "") → cells.length ≠ 2 →
    IsAtFault ⟨line, some cells⟩ (.malformed line cells.length)
  | emptyKey (line : Nat) {value : String} : value ≠ "" →
    IsAtFault ⟨line, some ["", value]⟩ (.emptyKey line)

def LastEntry (rows : List Row) (key value : String) : Prop :=
  ∃ before row after, rows = before ++ row :: after ∧ row.HasEntry key value ∧
    ∀ later ∈ after, ∀ other, ¬ later.HasEntry key other

/-! ## Single rows -/

theorem Row.kinds (row : Row) :
    row.IsBlank ∨ (∃ key value, row.HasEntry key value) ∨ ∃ cause, row.IsAtFault cause := by
  obtain ⟨line, cells⟩ := row
  cases cells with
  | none => exact .inr (.inr ⟨_, .undecodable line⟩)
  | some cells =>
    by_cases hblank : ∀ cell ∈ cells, cell = ""
    · exact .inl ⟨cells, rfl, hblank⟩
    · have hfilled : ∃ cell ∈ cells, cell ≠ "" := by
        simpa only [not_forall, exists_prop] using hblank
      by_cases hlength : cells.length = 2
      · obtain ⟨key, value, rfl⟩ := List.length_eq_two.mp hlength
        by_cases hkey : key = ""
        · subst hkey
          have hvalue : value ≠ "" := by simpa using hfilled
          exact .inr (.inr ⟨_, .emptyKey line hvalue⟩)
        · exact .inr (.inl ⟨key, value, rfl, hkey⟩)
      · exact .inr (.inr ⟨_, .malformed line hfilled hlength⟩)

theorem all_isEmpty {cells : List String} :
    cells.all (·.isEmpty) = true ↔ ∀ cell ∈ cells, cell = "" := by
  simp [List.all_eq_true]

theorem addRow_of_isBlank (h : row.IsBlank) (table : Catalog String) :
    addRow table row = .ok table := by
  obtain ⟨cells, hcells, hblank⟩ := h
  rw [addRow, hcells]
  exact if_pos (all_isEmpty.mpr hblank)

theorem addRow_of_hasEntry (h : row.HasEntry key value) (table : Catalog String) :
    addRow table row = .ok (table.insert key value) := by
  obtain ⟨hcells, hkey⟩ := h
  simp [addRow, hcells, hkey]

theorem addRow_of_isAtFault (h : row.IsAtFault cause) (table : Catalog String) :
    addRow table row = .error cause := by
  cases h with
  | undecodable line => rfl
  | @malformed line cells hfilled hlength =>
    have hall : ¬ cells.all (·.isEmpty) = true := by
      rw [all_isEmpty, not_forall]
      simpa only [not_forall, exists_prop] using hfilled
    rw [addRow]
    dsimp only
    rw [if_neg hall]
    split
    · exact absurd rfl hlength
    · rfl
  | emptyKey line hvalue => simp [addRow, hvalue]

theorem Row.IsAtFault.not_isBlank (h : row.IsAtFault cause) : ¬ row.IsBlank := by
  intro hblank
  have hadd := addRow_of_isAtFault h .empty
  rw [addRow_of_isBlank hblank] at hadd
  cases hadd

theorem Row.IsAtFault.not_hasEntry (h : row.IsAtFault cause) : ¬ row.HasEntry key value := by
  intro hentry
  have hadd := addRow_of_isAtFault h .empty
  rw [addRow_of_hasEntry hentry] at hadd
  cases hadd

theorem addRow_eq_error : addRow table row = .error cause ↔ row.IsAtFault cause := by
  constructor
  · intro h
    rcases row.kinds with hblank | ⟨key, value, hentry⟩ | ⟨cause', hfault⟩
    · rw [addRow_of_isBlank hblank] at h
      cases h
    · rw [addRow_of_hasEntry hentry] at h
      cases h
    · rw [addRow_of_isAtFault hfault] at h
      cases h
      exact hfault
  · exact fun h => addRow_of_isAtFault h table

/-! ## Rows one after the other -/

def Row.entry? (row : Row) : Option (String × String) :=
  match row.cells with
  | some [key, value] => if key = "" then none else some (key, value)
  | _ => none

theorem entry?_eq_some : row.entry? = some (key, value) ↔ row.HasEntry key value := by
  constructor
  · intro h
    unfold Row.entry? at h
    split at h
    · next hcells =>
      split at h
      · cases h
      · next hkey =>
        cases h
        exact ⟨hcells, hkey⟩
    · cases h
  · rintro ⟨hcells, hkey⟩
    simp only [Row.entry?, hcells]
    exact if_neg hkey

theorem Row.IsBlank.entry?_eq_none (h : row.IsBlank) : row.entry? = none := by
  obtain ⟨cells, hcells, hblank⟩ := h
  apply Option.eq_none_iff_forall_ne_some.mpr
  rintro ⟨key, value⟩ hentry
  obtain ⟨hcells', hkey⟩ := entry?_eq_some.mp hentry
  rw [hcells] at hcells'
  cases hcells'
  exact hkey (hblank key List.mem_cons_self)

def entries (rows : List Row) : List (String × String) :=
  rows.filterMap Row.entry?

/-- What rows add to a table, if nothing is wrong with any of them. -/
theorem foldlM_addRow_eq_ok : rows.foldlM addRow start = .ok table ↔
    (∀ row ∈ rows, ∀ cause, ¬ row.IsAtFault cause) ∧
      (entries rows).foldl (fun m entry => m.insert entry.1 entry.2) start = table := by
  -- The induction is on the rows, with any table to start from: each row adds its entry or nothing.
  induction rows generalizing start with
  | nil =>
    rw [List.foldlM_nil]
    simp [entries, pure, Except.pure]
  | cons row rows ih =>
    rw [List.foldlM_cons, List.forall_mem_cons, entries, List.filterMap_cons]
    rcases row.kinds with hblank | ⟨key, value, hentry⟩ | ⟨cause, hfault⟩
    · rw [addRow_of_isBlank hblank, hblank.entry?_eq_none]
      have hnone : ∀ cause, ¬ row.IsAtFault cause := fun cause h => h.not_isBlank hblank
      simp only [hnone, not_false_eq_true, implies_true, true_and]
      exact ih
    · rw [addRow_of_hasEntry hentry, entry?_eq_some.mpr hentry]
      have hnone : ∀ cause, ¬ row.IsAtFault cause := fun cause h => h.not_hasEntry hentry
      simp only [hnone, not_false_eq_true, implies_true, true_and]
      exact ih
    · rw [addRow_of_isAtFault hfault]
      constructor
      · intro h
        cases h
      · rintro ⟨⟨hnone, -⟩, -⟩
        exact absurd hfault (hnone cause)

theorem ofRows_eq_ok : ofRows rows = .ok table ↔
    (∀ row ∈ rows, ∀ cause, ¬ row.IsAtFault cause) ∧ Catalog.ofList (entries rows) = table :=
  foldlM_addRow_eq_ok

theorem ofRows_eq_error : ofRows rows = .error cause ↔
    ∃ before row after, rows = before ++ row :: after ∧
      (∀ earlier ∈ before, ∀ other, ¬ earlier.IsAtFault other) ∧ row.IsAtFault cause := by
  rw [ofRows, Except.foldlM_eq_error]
  simp only [foldlM_addRow_eq_ok, addRow_eq_error]
  constructor
  · rintro ⟨before, row, after, table, hrows, ⟨hbefore, -⟩, hfault⟩
    exact ⟨before, row, after, hrows, hbefore, hfault⟩
  · rintro ⟨before, row, after, hrows, hbefore, hfault⟩
    exact ⟨before, row, after, _, hrows, ⟨hbefore, rfl⟩, hfault⟩

/-! ## What a table holds -/

def valuesIn (rows : List Row) (key : String) : List String :=
  Catalog.valuesOf (entries rows) key

theorem valuesIn_eq_filterMap (rows : List Row) (key : String) : valuesIn rows key =
    rows.filterMap fun row => row.entry?.bind fun entry =>
      if entry.1 = key then some entry.2 else none :=
  List.filterMap_filterMap

theorem getLast?_valuesIn : (valuesIn rows key).getLast? = some value ↔ LastEntry rows key value := by
  have hvalue : ∀ row : Row, ∀ value, (row.entry?.bind fun entry =>
      if entry.1 = key then some entry.2 else none) = some value ↔ row.HasEntry key value := by
    intro row value
    rw [Option.bind_eq_some_iff, ← entry?_eq_some]
    grind
  rw [valuesIn_eq_filterMap, List.getLast?_filterMap, List.findSome?_eq_some_iff]
  simp only [hvalue, Option.eq_none_iff_forall_ne_some, ne_eq]
  -- The search goes from the end, so what it has passed are the rows behind the one it finds.
  constructor
  · rintro ⟨after, row, before, hrows, hentry, hafter⟩
    refine ⟨before.reverse, row, after.reverse, ?_, hentry, ?_⟩
    · rw [← List.reverse_reverse rows, hrows]
      simp
    · simpa using hafter
  · rintro ⟨before, row, after, rfl, hentry, hafter⟩
    refine ⟨after.reverse, row, before.reverse, by simp, hentry, ?_⟩
    simpa using hafter

theorem get?_ofRows (h : ofRows rows = .ok table) (key : String) :
    table.get? key = (valuesIn rows key).getLast? := by
  obtain ⟨-, rfl⟩ := ofRows_eq_ok.mp h
  exact Catalog.get?_ofList _ key

theorem mem_keys_ofRows (h : ofRows rows = .ok table) :
    key ∈ table.keys ↔ ∃ row ∈ rows, ∃ value, row.HasEntry key value := by
  obtain ⟨-, rfl⟩ := ofRows_eq_ok.mp h
  simp only [Catalog.mem_keys_ofList, entries, List.mem_filterMap, entry?_eq_some]
  constructor
  · rintro ⟨value, row, hrow, hentry⟩
    exact ⟨row, hrow, value, hentry⟩
  · rintro ⟨row, hrow, value, hentry⟩
    exact ⟨value, row, hrow, hentry⟩

theorem size_eq_ncard (m : Catalog String) : m.size = {key | key ∈ m.keys}.ncard := by
  have hnodup : m.keys.Nodup := m.pairwise_keys.imp fun hlt => ne_of_lt hlt
  have hset : {key | key ∈ m.keys} = (m.keys.toFinset : Set String) := by
    ext key
    simp
  rw [hset, Set.ncard_coe_finset, List.toFinset_card_of_nodup hnodup, Catalog.length_keys]

theorem forall_not_isAtFault : (∀ cause, ¬ row.IsAtFault cause) ↔
    ∃ cells, row.cells = some cells ∧
      ((∃ cell ∈ cells, cell ≠ "") → ∃ key value, cells = [key, value] ∧ key ≠ "") := by
  constructor
  · intro hnone
    rcases row.kinds with ⟨cells, hcells, hblank⟩ | ⟨key, value, hcells, hkey⟩ | ⟨cause, hfault⟩
    · refine ⟨cells, hcells, ?_⟩
      rintro ⟨cell, hcell, hne⟩
      exact absurd (hblank cell hcell) hne
    · exact ⟨_, hcells, fun _ => ⟨key, value, rfl, hkey⟩⟩
    · exact absurd hfault (hnone cause)
  · rintro ⟨cells, hcells, hentry⟩ cause hfault
    by_cases hblank : ∀ cell ∈ cells, cell = ""
    · exact hfault.not_isBlank ⟨cells, hcells, hblank⟩
    · obtain ⟨key, value, rfl, hkey⟩ := hentry (by simpa only [not_forall, exists_prop] using hblank)
      exact hfault.not_hasEntry ⟨hcells, hkey⟩

/-- A table is read from its rows exactly if each of them is text and, unless it is blank, has two
cells and a key in the first. Otherwise the first row that is at fault is reported. The keys of the
table are those of its rows, each with the value that the last row has for it. What a record says is
its fields as text, trimmed. -/
theorem ofRows_accepts :
    (∀ (r : Record) (cells : List String), r.toRow.cells = some cells ↔ r.Says cells) ∧
    ∀ rows : List Row,
      ((∃ table, ofRows rows = .ok table) ↔ ∀ row ∈ rows, ∃ cells, row.cells = some cells ∧
        ((∃ cell ∈ cells, cell ≠ "") → ∃ key value, cells = [key, value] ∧ key ≠ "")) ∧
      (∀ cause, ofRows rows = .error cause ↔ ∃ before row after, rows = before ++ row :: after ∧
        (∀ earlier ∈ before, ∀ other, ¬ earlier.IsAtFault other) ∧ row.IsAtFault cause) ∧
      ∀ table, ofRows rows = .ok table →
        (∀ key, key ∈ table.keys ↔ ∃ row ∈ rows, ∃ value, row.HasEntry key value) ∧
        (∀ key value, table.get? key = some value ↔ LastEntry rows key value) ∧
        table.size = {key | ∃ row ∈ rows, ∃ value, row.HasEntry key value}.ncard := by
  refine ⟨fun r cells => says_iff, fun rows => ⟨?_, fun cause => ofRows_eq_error, ?_⟩⟩
  · simp only [ofRows_eq_ok, ← forall_not_isAtFault]
    constructor
    · rintro ⟨table, hnone, -⟩
      exact hnone
    · exact fun hnone => ⟨_, hnone, rfl⟩
  · intro table htable
    refine ⟨fun key => mem_keys_ofRows htable, fun key value => ?_, ?_⟩
    · rw [get?_ofRows htable, getLast?_valuesIn]
    · rw [size_eq_ncard]
      simp only [mem_keys_ofRows htable]

/-- Rows with a key twice and a blank row in between. -/
def repeatedRows : List Row :=
  [⟨2, some ["HOST", "\\w+"]⟩, ⟨3, some ["", ""]⟩, ⟨4, some ["PORT", ""]⟩,
    ⟨6, some ["HOST", "[a-z]+"]⟩]

/-- The later value counts; behind these rows, a row that is too wide is at fault for its width,
although it has no key either and the next row is no text. -/
theorem ofRows_accepts_repeated :
    (∃ table, ofRows repeatedRows = .ok table ∧ table.get? "HOST" = some "[a-z]+" ∧
      "PORT" ∈ table.keys ∧
      table.size = {key | ∃ row ∈ repeatedRows, ∃ value, row.HasEntry key value}.ncard) ∧
    ofRows (repeatedRows ++ [⟨7, some ["", "a", "b"]⟩, ⟨8, none⟩]) = .error (.malformed 7 3) := by
  have hrows : ∀ row ∈ repeatedRows, ∃ cells, row.cells = some cells ∧
      ((∃ cell ∈ cells, cell ≠ "") → ∃ key value, cells = [key, value] ∧ key ≠ "") := by
    simp [repeatedRows]
  constructor
  · obtain ⟨haccept, -, htable⟩ := ofRows_accepts.2 repeatedRows
    obtain ⟨table, hok⟩ := haccept.mpr hrows
    obtain ⟨hkeys, hvalues, hsize⟩ := htable table hok
    refine ⟨table, hok, (hvalues _ _).mpr ?_, (hkeys _).mpr ?_, hsize⟩
    · exact ⟨repeatedRows.take 3, _, [], rfl, ⟨rfl, by decide⟩, by simp⟩
    · exact ⟨⟨4, some ["PORT", ""]⟩, by simp [repeatedRows], "", rfl, by decide⟩
  · refine ((ofRows_accepts.2 _).2.1 _).mpr ⟨repeatedRows, _, _, rfl, ?_, ?_⟩
    · exact fun row hrow => forall_not_isAtFault.mpr (hrows row hrow)
    · exact .malformed 7 ⟨"a", by simp, by decide⟩ (by decide)

end Conformance.Table
