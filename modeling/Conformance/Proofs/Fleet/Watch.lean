import Conformance.Proofs.Fleet.Interleaving
import Conformance.Proofs.Fleet.Isolation
import Conformance.Proofs.Fleet.Repose
import Conformance.Watch

/-!
# Watches

A watch is an audit of the whole inventory and then one scan after each update for a device of the
inventory. In memory as on disk, the audit puts all devices to rest, so that updates without new
snapshots change nothing.
-/
namespace Conformance

/-! ## Devices at rest in memory -/

namespace Memory

variable {m m' : Memory} {name : String}

theorem not_isStoreFailure_scan (a : Auditor) (now : Moment) (device : Device) (force : Bool)
    (m : Memory) : ¬ IsStoreFailure ((a.scan now device force).run.run store m).1 := by
  have hscan := scan_scanned a now device force m
  generalize (a.scan now device force).run.run store m = outcome at hscan ⊢
  rintro ⟨cause, hcause⟩
  cases hscan <;> cases hcause

theorem not_isStoreFailure_scanEach (a : Auditor) (turns : List (Moment × Device)) (m : Memory) :
    ∀ audit ∈ (a.scanEach store turns m).1, ¬ IsStoreFailure audit.result := by
  induction turns generalizing m with
  | nil => simp [Auditor.scanEach]
  | cons turn turns ih =>
    rw [Auditor.scanEach_cons]
    exact List.forall_mem_cons.mpr ⟨not_isStoreFailure_scan a turn.1 turn.2 false m, ih _⟩

theorem follows_of_eq (h : m'.of name = m.of name) : store.Follows name m m' where
  snapshots old new hold hnew id := by
    obtain rfl : (m.of name).snapshots.keys = old := Except.ok.inj hold
    obtain rfl : (m'.of name).snapshots.keys = new := Except.ok.inj hnew
    rw [h]
  lines old hold id hid := by
    show found name .snapshot id ((m'.of name).snapshots.get? id) =
      found name .snapshot id ((m.of name).snapshots.get? id)
    rw [h]
  reports old new hold hnew := by
    obtain rfl : (m.of name).reports.keys = old := Except.ok.inj hold
    obtain rfl : (m'.of name).reports.keys = new := Except.ok.inj hnew
    rw [h]
    exact List.Subset.refl _

theorem gains_of_saveReport (m : Memory) (r : StoredReport) :
    store.Gains r m (store (.saveReport r) m).2 where
  snapshots old hold hmem := by
    obtain rfl : (m.of r.device).snapshots.keys = old := Except.ok.inj hold
    rw [← snapshots_store (.saveReport r) m]
    exact ⟨_, rfl, fun id => .inr⟩
  reports := by
    refine ⟨_, rfl, ?_⟩
    have hsave : (store (.saveReport r) m).2 =
      m.withReports r.device ((m.of r.device).reports.insert r.id r) := rfl
    rw [hsave, of_withReports_self]
    exact Catalog.mem_keys_insert.mpr (.inl rfl)

def repose : Repose store where
  sound _ := True
  aside name m m' := m'.of name = m.of name
  keepsOnReading := keepsOnReading
  refl _ _ := rfl
  trans h h' := h'.trans h
  sound_scan _ _ _ _ := trivial
  aside_scan a now _ hne _ := of_scan_of_ne hne.symm a now false _
  follows _ _ haside := follows_of_eq haside
  gains _ _ hsave := (Prod.mk.inj hsave).2 ▸ gains_of_saveReport _ _

end Memory

/-! ## Devices at rest on disk -/

namespace Directories

variable {d : Directories} {t t' : FileTree} {name : String} {r : StoredReport}

theorem follows_of_audited (hname : Path.IsName name) (hsound : t.IsSound)
    (h : d.Audited (· ≠ name) t t') : d.store.Follows name t t' := by
  rcases h.hasSnapshots with rfl | hsnapshots
  · exact .refl d.store name t'
  have hconfined := h.confined hsound
  -- Others write into directories with their own names, whichever the two roots are.
  have hin : ∀ root id, ¬ Workplace (t.target d.reports) (· ≠ name) (root ++ [name] ++ [id]) := by
    intro root id
    rw [List.append_assoc]
    exact not_workplace (not_not_intro rfl)
  have hinSnapshots := hin (t.target d.snapshots)
  have hinReports := hin (t.target d.reports)
  rw [← target_snapshotsOf hname] at hinSnapshots
  rw [← target_reportsOf hname] at hinReports
  constructor
  · intro old new hold hnew id
    constructor
    · intro hid
      obtain ⟨place, hlead⟩ := leadsTo_of_mem_list hnew hid
      obtain rfl := Except.ok.inj ((list_of_leadsTo hlead).symm.trans hnew)
      obtain ⟨hchecked, -, hlength, rfl, -⟩ := (leadsTo_snapshotsOf hname).mp hlead
      rw [FileTree.target_congr h.keeps.here, ← target_snapshotsOf hname,
        hconfined.filesAt hinSnapshots] at hid
      obtain ⟨bytes, hat⟩ := FileTree.mem_filesAt.mp (List.mem_filter.mp hid).1
      have hlead' := (leadsTo_snapshotsOf hname).mpr ⟨hchecked, hsnapshots, hlength,
        target_snapshotsOf hname d t, hsound.directory hat⟩
      obtain rfl := Except.ok.inj ((list_of_leadsTo hlead').symm.trans hold)
      exact hid
    · exact fun hid => mem_list_of_confined hconfined hinSnapshots hold hnew hid
  · exact fun old hold id hid => loadSnapshot_of_confined hconfined hsound hinSnapshots hold hid
  · exact fun old new hold hnew id hid => mem_list_of_confined hconfined hinReports hold hnew hid

theorem gains_of_saveReport (hr : Request.IsAdmitted (.saveReport r)) {id : String}
    (hsave : d.saveReport t r = (.ok id, t')) : d.store.Gains r t t' := by
  obtain ⟨place, hsaved⟩ := saved_of_saveReport (slash_not_mem_id_of_isAdmitted hr) hsave
  constructor
  · intro old hold hmem
    obtain ⟨new, hnew, -, hall⟩ := snapshots_of_saved hr.1.safe (.refl t place) hsaved hold hmem
    exact ⟨new, hnew, hall⟩
  · refine ⟨_, list_of_leadsTo hsaved.leadsTo, ?_⟩
    exact List.mem_filter.mpr ⟨FileTree.mem_filesAt.mpr ⟨_, hsaved.at?_id⟩, isReportName_id r⟩

def repose (d : Directories) : Repose d.store where
  sound := FileTree.IsSound
  aside name := d.Audited (· ≠ name)
  keepsOnReading := d.keepsOnReading
  refl name := .refl d (· ≠ name)
  trans := .trans
  sound_scan {device t} a now hdevice hsound := by
    have haudited : d.Audited (fun _ => True) t ((a.scan now device false).run.run d.store t).2.1 :=
      a.audited_scan hdevice hsound trivial now false
    exact haudited.sound hsound
  aside_scan a now hdevice hne hsound := a.audited_scan hdevice hsound hne now false
  follows hname hsound haside := follows_of_audited hname.isName hsound haside
  gains hr _ hsave := gains_of_saveReport hr hsave

end Directories

/-! ## Updates -/

namespace Settings

variable {s : Settings}

/-- The scans that updates call for: one after each that names a device of the inventory. -/
def turns (s : Settings) (updates : List Update) : List (Moment × Device) :=
  updates.flatMap fun update =>
    (s.devices.filter (·.name == update.device)).map (update.now, ·)

theorem turns_cons (s : Settings) (update : Update) (updates : List Update) :
    s.turns (update :: updates) =
      (s.devices.filter (·.name == update.device)).map (update.now, ·) ++ s.turns updates :=
  (rfl)

theorem device?_eq_find? (s : Settings) (name : String) :
    s.device? name = s.devices.find? (·.name == name) := by
  rw [devices, List.find?_map]
  rfl

theorem device?_eq_none {name : String} (h : name ∉ s.devices.map Device.name) :
    s.device? name = none := by
  rw [device?_eq_find?, List.find?_eq_none]
  intro device hdevice heq
  exact h (List.mem_map.mpr ⟨device, hdevice, beq_iff_eq.mp heq⟩)

theorem filter_devices (h : (s.devices.map Device.name).Nodup) (name : String) :
    s.devices.filter (·.name == name) = (s.device? name).toList := by
  rw [device?_eq_find?]
  generalize s.devices = devices at h
  induction devices with
  | nil => rfl
  | cons device devices ih =>
    rw [List.map_cons, List.nodup_cons] at h
    by_cases hname : device.name = name
    · have hrest : devices.filter (·.name == name) = [] := by
        rw [List.filter_eq_nil_iff]
        intro other hother heq
        exact h.1 (List.mem_map.mpr ⟨other, hother, (beq_iff_eq.mp heq).trans hname.symm⟩)
      simp [hname, hrest]
    · simp [hname, ih h.2]

theorem mem_devices_of_mem_turns {updates : List Update} {turn : Moment × Device}
    (h : turn ∈ s.turns updates) : turn.2 ∈ s.devices := by
  obtain ⟨update, -, hturn⟩ := List.mem_flatMap.mp h
  obtain ⟨device, hdevice, rfl⟩ := List.mem_map.mp hturn
  exact (List.mem_filter.mp hdevice).1

end Settings

namespace Auditor

variable {σ : Type} {s : Settings} {store : Store σ} {a : Auditor}

theorem scanAll_eq_scanEach (now : Moment) (devices : List Device) (m : σ) :
    a.scanAll store now false devices m = a.scanEach store (devices.map (now, ·)) m := by
  induction devices generalizing m with
  | nil => rfl
  | cons device devices ih => rw [scanAll_cons, List.map_cons, scanEach_cons, ih]

theorem followUpdates_eq (hnodup : (s.devices.map Device.name).Nodup) (updates : List Update)
    (m : σ) : a.followUpdates s store updates m =
      ((a.scanEach store (s.turns updates) m).1.map ([·]),
        (a.scanEach store (s.turns updates) m).2) := by
  induction updates generalizing m with
  | nil => rfl
  | cons update updates ih =>
    rw [followUpdates, Settings.turns_cons, Settings.filter_devices hnodup]
    cases s.device? update.device with
    | none => exact ih m
    | some device =>
      simp only [scanAll_cons, ih, Option.toList_some, List.map_cons, List.map_nil,
        List.singleton_append, scanEach_cons]
      rfl

theorem followUpdates_filter (updates : List Update) (m : σ) :
    a.followUpdates s store (updates.filter fun update => update.device ∈ s.devices.map Device.name)
      m = a.followUpdates s store updates m := by
  induction updates generalizing m with
  | nil => rfl
  | cons update updates ih =>
    by_cases hname : update.device ∈ s.devices.map Device.name
    · rw [List.filter_cons_of_pos (by simpa using hname), followUpdates, followUpdates]
      simp only [ih]
    · rw [List.filter_cons_of_neg (by simpa using hname), ih, followUpdates,
        Settings.device?_eq_none hname]

end Auditor

/-- A watch of accepted settings is an audit of the whole inventory and then one scan for each update
that names a device of it. Whatever the clock says after the audit, these scans change nothing unless
one of them or of the audit fails for the store. -/
theorem watch_replays (s : Settings) (h : s.problems = []) (a : Auditor) (updates : List Update) :
    (∀ {σ : Type} (store : Store σ) (now : Moment) (m : σ),
      let audit := a.scanAll store now false s.devices m
      let scans := a.scanEach store (s.turns updates) audit.2
      a.watch s store now updates m = (audit.1 :: scans.1.map ([·]), scans.2) ∧
      audit = a.scanEach store (s.devices.map (now, ·)) m ∧
      a.watch s store now
          (updates.filter fun update => update.device ∈ s.devices.map Device.name) m =
        a.watch s store now updates m) ∧
    ∀ clock : Device → Clock,
      let audited := s.devices.map fun device => ((clock device).now, device)
      (∀ m : Memory,
        let audit := a.scanEach Memory.store audited m
        Settled audit (a.scanEach Memory.store (s.turns updates) audit.2)) ∧
      ∀ (d : Directories) (t : FileTree), t.IsSound →
        let audit := a.scanEach d.store audited t
        let scans := a.scanEach d.store (s.turns updates) audit.2
        (∀ result ∈ audit.1 ++ scans.1, ¬ IsStoreFailure result.result) → Settled audit scans := by
  have hinventory := Settings.inventory_of_problems h
  have hnodup := Settings.nodup_names hinventory
  have haccepts : ∀ device ∈ s.devices, Settings.Accepts device.name :=
    fun device => Settings.accepts_of_mem hinventory
  constructor
  · intro σ store now m audit scans
    have hwatch : a.watch s store now updates m = (audit.1 :: scans.1.map ([·]), scans.2) := by
      rw [Auditor.watch]
      simp only [Auditor.followUpdates_eq hnodup]
      rfl
    refine ⟨hwatch, Auditor.scanAll_eq_scanEach now s.devices m, ?_⟩
    rw [Auditor.watch, Auditor.watch]
    simp only [Auditor.followUpdates_filter]
  · intro clock audited
    have hturns : ∀ turn ∈ s.turns updates, turn.2 ∈ s.devices :=
      fun turn => Settings.mem_devices_of_mem_turns
    constructor
    · intro m audit
      apply Memory.repose.settled haccepts hnodup hturns trivial
      intro audit'
      exact List.forall_mem_append.mpr ⟨Memory.not_isStoreFailure_scanEach a _ m,
        Memory.not_isStoreFailure_scanEach a _ audit'.2⟩
    · intro d t hsound audit scans hstore
      exact d.repose.settled haccepts hnodup hturns hsound hstore

/-- One device gets a report from the audit. Of two updates one is for another device, which has no
snapshots. -/
theorem watch_replays_pair :
    let s : Settings := { inventory := [⟨"sw1", ""⟩, ⟨"sw3", ""⟩] }
    let noon : Moment := ⟨2024, 5, 1, 12, 0, 0⟩
    let updates : List Update := [⟨noon, "sw9"⟩, ⟨noon, "sw3"⟩]
    let audit := Auditor.blank.scanAll s.directories.store noon false s.devices .pair
    s.problems = [] ∧ FileTree.pair.IsSound ∧ s.turns updates = [(noon, ⟨"sw3", .nonEls⟩)] ∧
      FileTree.at? audit.2 ["reports", "sw1", "sw1_deviation_2024-05-01_1200.json"] ≠ none ∧
      (Auditor.blank.watch s s.directories.store noon updates .pair).2 = audit.2 := by
  intro s noon updates audit
  have hproblems : s.problems = [] := by decide +kernel
  have hsound : FileTree.pair.IsSound := by decide +kernel
  obtain ⟨hreplay, hsettled⟩ := watch_replays s hproblems .blank updates
  obtain ⟨hwatch, haudit, -⟩ := hreplay s.directories.store noon .pair
  have hrest := (hsettled fun _ => ⟨noon, by decide, by decide⟩).2 s.directories .pair hsound
    (by decide +kernel)
  refine ⟨hproblems, hsound, by decide +kernel, by decide +kernel, ?_⟩
  have hstate := hrest.state
  dsimp only at hstate haudit hwatch
  rw [← haudit] at hstate
  rw [hwatch, hstate]

end Conformance
