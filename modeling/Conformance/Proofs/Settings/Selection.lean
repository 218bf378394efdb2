import Conformance.Proofs.Except
import Conformance.Proofs.Settings.Inventory
import Conformance.Startup

/-!
# Selecting devices

A device is selected by its name as it is written, while the names of accepted settings differ even
with blanks cut away at their ends. So every device of the inventory is found under its own name, and
to ask for no name in particular is to ask for all of them.
-/
namespace Conformance.Settings

variable {s : Settings} {entry : InventoryEntry} {name : String} {device : Device}
  {cause : StartupError}

def names (s : Settings) : List String :=
  s.inventory.map InventoryEntry.name

theorem nodup_inventory (h : s.problems = []) : (s.inventory.map InventoryEntry.name).Nodup := by
  have hnodup := nodup_names (inventory_of_problems h)
  rwa [devices, List.map_map] at hnodup

/-! ## Looking up one name -/

theorem find?_inventory (h : s.problems = []) :
    s.inventory.find? (·.name == name) = some entry ↔
      entry ∈ s.inventory ∧ entry.name = name := by
  constructor
  · intro hfind
    have hname := List.find?_some hfind
    exact ⟨List.mem_of_find?_eq_some hfind, beq_iff_eq.mp hname⟩
  · rintro ⟨hentry, rfl⟩
    cases hfind : s.inventory.find? (·.name == entry.name) with
    | none => exact absurd (beq_self_eq_true _) (List.find?_eq_none.mp hfind entry hentry)
    | some other =>
      have hname := List.find?_some hfind
      rw [List.inj_on_of_nodup_map (nodup_inventory h) (List.mem_of_find?_eq_some hfind) hentry
        (beq_iff_eq.mp hname)]

theorem device?_eq_some_iff (h : s.problems = []) : s.device? name = some device ↔
    ∃ entry ∈ s.inventory, entry.name = name ∧ s.device entry = device := by
  simp only [device?, Option.map_eq_some_iff, find?_inventory h, and_assoc]

theorem device?_eq_none_iff : s.device? name = none ↔ name ∉ s.names := by
  simp [device?, names]

/-! ## Looking up names one after the other -/

def find (s : Settings) (name : String) : Except StartupError Device :=
  match s.device? name with
  | some device => .ok device
  | none => .error (.unknownDevice name)

theorem find_eq_ok_iff : s.find name = .ok device ↔ s.device? name = some device := by
  rw [find]
  cases s.device? name <;> simp

theorem find_eq_error_iff :
    s.find name = .error cause ↔ name ∉ s.names ∧ cause = .unknownDevice name := by
  rw [find, ← device?_eq_none_iff]
  cases s.device? name <;> simp [eq_comm]

theorem exists_find_eq_ok_iff : (∃ device, s.find name = .ok device) ↔ name ∈ s.names := by
  simp only [find_eq_ok_iff, ← Option.ne_none_iff_exists', ne_eq, device?_eq_none_iff, not_not]

/-- The names asked for: no names stand for those of the whole inventory. -/
def asked (s : Settings) (names : List String) : List String :=
  if names.isEmpty then s.names else names

theorem forall_asked_iff {names : List String} :
    (∀ name ∈ s.asked names, name ∈ s.names) ↔ ∀ name ∈ names, name ∈ s.names := by
  rw [asked]
  split
  · next hempty => simp [List.isEmpty_iff.mp hempty]
  · rfl

/-- To select devices is to look up the names asked for, one after the other. -/
theorem select_eq_mapM (h : s.problems = []) (names : List String) :
    s.select names = (s.asked names).mapM s.find := by
  rw [select, asked]
  split
  · refine (Except.mapM_eq_ok.mpr ?_).symm
    rw [Settings.names, devices, List.forall₂_map_left_iff, List.forall₂_map_right_iff,
      List.forall₂_same]
    exact fun entry hentry =>
      find_eq_ok_iff.mpr ((device?_eq_some_iff h).mpr ⟨entry, hentry, rfl, rfl⟩)
  · rfl

theorem select_eq_error_iff (h : s.problems = []) {names : List String} :
    s.select names = .error cause ↔ ∃ before name after, names = before ++ name :: after ∧
      (∀ known ∈ before, known ∈ s.names) ∧ name ∉ s.names ∧ cause = .unknownDevice name := by
  simp only [select_eq_mapM h, Except.mapM_eq_error, exists_find_eq_ok_iff, find_eq_error_iff]
  cases names with
  | nil =>
    constructor
    · rintro ⟨before, name, after, hasked, -, hname, -⟩
      have hall : ∀ name ∈ s.asked [], name ∈ s.names := forall_asked_iff.mpr (by simp)
      exact absurd (hall name (by simp [hasked])) hname
    · rintro ⟨before, name, after, hnil, -⟩
      simp at hnil
  | cons first rest => rfl

def IsNamed (s : Settings) (name : String) (device : Device) : Prop :=
  ∃ entry ∈ s.inventory, entry.name = name ∧
    device = ⟨entry.name, .classify s.markers entry.model⟩

/-- In accepted settings, to select all devices without naming any is to name all of them in order,
and every entry of the inventory is found under its own name, in the family of its own model. Selecting
gives one device for each name asked for, in order, if all names are in the inventory, and otherwise
fails at the first one that is not. -/
theorem select_consistent (s : Settings) (h : s.problems = []) :
    s.select [] = s.select s.names ∧
    (∀ entry ∈ s.inventory, s.inventory.find? (·.name == entry.name) = some entry ∧
      s.device? entry.name = some ⟨entry.name, .classify s.markers entry.model⟩) ∧
    ∀ names,
      ((∃ devices, s.select names = .ok devices ∧ List.Forall₂ s.IsNamed (s.asked names) devices) ↔
        ∀ name ∈ names, name ∈ s.names) ∧
      ∀ cause, s.select names = .error cause ↔ ∃ before name after,
        names = before ++ name :: after ∧ (∀ known ∈ before, known ∈ s.names) ∧ name ∉ s.names ∧
        cause = .unknownDevice name := by
  have hnames : s.select [] = s.select s.names := by
    have hasked : s.asked s.names = s.asked [] := by
      rw [asked, asked, ite_self]
      rfl
    rw [select_eq_mapM h, select_eq_mapM h, hasked]
  refine ⟨hnames, fun entry hentry => ⟨(find?_inventory h).mpr ⟨hentry, rfl⟩,
    (device?_eq_some_iff h).mpr ⟨entry, hentry, rfl, rfl⟩⟩, fun names => ⟨?_, fun cause =>
    select_eq_error_iff h⟩⟩
  rw [select_eq_mapM h, ← forall_asked_iff]
  constructor
  · rintro ⟨devices, hselect, -⟩
    have hfound := (Except.mapM_eq_ok.mp hselect).imp fun name device hfind =>
      And.intro (exists_find_eq_ok_iff.mp ⟨device, hfind⟩) hfind
    exact ((List.forall₂_and_left _ _).mp hfound).1
  · intro hall
    obtain ⟨devices, hselect⟩ :=
      Except.exists_mapM_eq_ok fun name hname => exists_find_eq_ok_iff.mpr (hall name hname)
    refine ⟨devices, hselect, (Except.mapM_eq_ok.mp hselect).imp fun name device hfind => ?_⟩
    obtain ⟨entry, hentry, hname, hdevice⟩ := (device?_eq_some_iff h).mp (find_eq_ok_iff.mp hfind)
    exact ⟨entry, hentry, hname, hdevice.symm⟩

/-- Two devices, one of them with blanks in its name. One is asked for twice; then an unknown name
stands behind it. -/
theorem select_consistent_twice :
    let s : Settings := { inventory := [⟨"sw1 ", "EX2300-24P"⟩, ⟨"sw2", ""⟩] }
    s.problems = [] ∧ s.select [] = s.select ["sw1 ", "sw2"] ∧
      s.device? "sw1 " = some ⟨"sw1 ", .els⟩ ∧
      (∃ devices, s.select ["sw2", "sw2"] = .ok devices ∧
        List.Forall₂ s.IsNamed ["sw2", "sw2"] devices) ∧
      s.select ["sw2", "sw1", "sw9"] = .error (.unknownDevice "sw1") := by
  intro s
  have hproblems : s.problems = [] := by decide +kernel
  obtain ⟨hall, hentries, hnames⟩ := select_consistent s hproblems
  refine ⟨hproblems, hall, (hentries ⟨"sw1 ", "EX2300-24P"⟩ (by decide)).2.trans (by decide +kernel),
    (hnames ["sw2", "sw2"]).1.mpr (by decide), (hnames ["sw2", "sw1", "sw9"]).2 _ |>.mpr ?_⟩
  exact ⟨["sw2"], "sw1", ["sw9"], rfl, by decide, by decide, rfl⟩

end Conformance.Settings
