import Conformance.Proofs.Fleet.Footprint
import Conformance.Proofs.Refresh.History
import Conformance.Startup

/-!
# Devices are kept apart

The inventory of accepted settings has a directory of its own for each device. Whatever is done for one
device, no file of another one changes. What is told about the other one stays the same too, unless
its path goes up, or to an overlong name, from a directory that is made meanwhile.
-/
namespace Conformance

namespace Settings

theorem inventory_of_parse {text : String} {s : Settings} (h : parse text = .ok s) :
    inventoryProblems [] 0 s.inventory = [] := by
  rw [parse] at h
  split at h
  · cases h
  · split at h
    · next hnone =>
      cases h
      exact inventory_of_problems (List.isEmpty_iff.mp hnone)
    · cases h

theorem inventory_of_load {t : FileTree} {p : Path} {s : Settings} (h : load t p = .ok s) :
    inventoryProblems [] 0 s.inventory = [] := by
  obtain ⟨text, -, h⟩ := Except.bind_eq_ok.mp h
  obtain ⟨parsed, hparse, h⟩ := Except.bind_eq_ok.mp h
  have hinventory := inventory_of_parse hparse
  split at h <;> cases h <;> exact hinventory

end Settings

/-- What can be done for one device: a scan, a discarding of its reports, or keeping a report with a
stamp. -/
inductive DeviceWork {σ : Type} (store : Store σ) (device : Device) (s : σ) : σ → Prop
  | scan (a : Auditor) (now : Moment) (force : Bool) :
    DeviceWork store device s ((a.scan now device force).run.run store s).2.1
  | discard : DeviceWork store device s (store (.discardReports device.name) s).2
  | save (r : StoredReport) (now : Moment) :
    r.device = device.name → r.generatedAt = Stamp.format now →
    DeviceWork store device s (store (.saveReport r) s).2

/-- The snapshots and the reports that were listed for a device are read as before. -/
structure Store.ReadsAlike {σ : Type} (store : Store σ) (device : String) (s s' : σ) : Prop where
  snapshot : ∀ ids : List String, (store (.snapshotIds device) s).1 = .ok ids → ∀ id ∈ ids,
    (store (.loadSnapshot device id) s').1 = (store (.loadSnapshot device id) s).1
  report : ∀ ids : List String, (store (.reportIds device) s).1 = .ok ids → ∀ id ∈ ids,
    (store (.loadReport device id) s').1 = (store (.loadReport device id) s).1

namespace Directories

open FileTree (Confined)

variable {d : Directories} {t t' : FileTree} {q : Place} {device : Device} {other : String}
  {names : String → Prop}

theorem confined_of_work (hsound : t.IsSound) (hdevice : Settings.Accepts device.name)
    (h : DeviceWork d.store device t t') :
    Confined (Workplace (t.target d.reports) (· = device.name)) t t' := by
  cases h with
  | scan a now force =>
    have haudited : d.Audited (· = device.name) t ((a.scan now device force).run.run d.store t).2.1 :=
      a.audited_scan hdevice hsound (by rfl) now force
    exact haudited.confined hsound
  | discard => exact confined_discardReports hsound hdevice rfl
  | save r now hr hstamp => exact confined_saveReport ⟨hr ▸ hdevice, now, hstamp⟩ hr t

/-! ## Apart from the reports of others -/

/-- Where the reports of some devices are, nothing is listed under a path, nor is anything on the way
to it but directories that are there. -/
structure IsApart (d : Directories) (t : FileTree) (names : String → Prop) (p : Path) : Prop where
  file : ∀ name, ¬ Workplace (t.target d.reports) names (t.target p ++ [name])
  way : ∀ q, Workplace (t.target d.reports) names q → q <+: t.target p →
    t.at? q = some .directory

/-- Neither of the two directories is within the other. -/
structure AreDisjoint (d : Directories) (t : FileTree) : Prop where
  snapshots : ¬ t.target d.snapshots <+: t.target d.reports
  reports : ¬ t.target d.reports <+: t.target d.snapshots

instance (d : Directories) (t : FileTree) : Decidable (d.AreDisjoint t) :=
  decidable_of_iff (¬ t.target d.snapshots <+: t.target d.reports ∧
    ¬ t.target d.reports <+: t.target d.snapshots) ⟨fun h => ⟨h.1, h.2⟩, fun h => ⟨h.1, h.2⟩⟩

theorem AreDisjoint.isApart_snapshots (h : d.AreDisjoint t) (hother : Path.IsName other)
    (names : String → Prop) : d.IsApart t names (d.snapshotsOf other) where
  file := by
    rintro name ⟨device, report, -, -, heq⟩
    rw [target_snapshotsOf hother, List.append_assoc] at heq
    exact h.snapshots (List.append_inj_left' heq rfl ▸ List.prefix_rfl)
  way := by
    rintro q ⟨device, report, -, -, rfl⟩ hq
    rw [target_snapshotsOf hother] at hq
    have hlength := hq.length_le
    simp only [List.length_append, List.length_cons, List.length_nil] at hlength
    have hprefix := List.prefix_of_prefix_length_le ((List.prefix_append _ _).trans hq)
      (List.prefix_append _ _) (by omega)
    exact absurd hprefix h.reports

theorem isApart_reports (hname : Path.IsName other) (hother : ¬ names other) :
    d.IsApart t names (d.reportsOf other) where
  file := by
    intro name
    rw [target_reportsOf hname, List.append_assoc]
    exact not_workplace hother
  way := by
    rintro q ⟨device, report, -, -, rfl⟩ hq
    rw [target_reportsOf hname] at hq
    have hlength := hq.length_le
    simp only [List.length_append, List.length_cons, List.length_nil] at hlength
    omega

section Apart
variable (hsound : t.IsSound) (h : Confined (Workplace (t.target d.reports) names) t t')
include hsound h

theorem snapshotIds_of_isApart (hapart : d.IsApart t names (d.snapshotsOf other))
    (hclear : t.IsClear (d.snapshotsOf other)) :
    (d.store (.snapshotIds other) t').1 = (d.store (.snapshotIds other) t).1 :=
  list_of_confined h hsound (fun name _ => hapart.file name) hclear hapart.way

theorem reportIds_of_isApart (hapart : d.IsApart t names (d.reportsOf other))
    (hclear : t.IsClear (d.reportsOf other)) :
    (d.store (.reportIds other) t').1 = (d.store (.reportIds other) t).1 :=
  list_of_confined h hsound (fun name _ => hapart.file name) hclear hapart.way

end Apart

end Directories

open Directories (AreDisjoint)

/-- The devices of accepted settings whose two directories are disjoint have names of their own and
directories of their own. Work for one of them adds, removes and changes no file but its reports. What
is listed for another one is read as before, and the listing is the same if its path is clear. -/
theorem devices_isolated (text : String) (s : Settings) (t : FileTree)
    (hparse : Settings.parse text = .ok s) (hsound : t.IsSound)
    (hdisjoint : s.directories.AreDisjoint t) :
    (s.devices.map Device.name).Nodup ∧
    (∀ device ∈ s.devices,
      t.target (s.directories.snapshotsOf device.name) =
        t.target s.directories.snapshots ++ [device.name] ∧
      t.target (s.directories.reportsOf device.name) =
        t.target s.directories.reports ++ [device.name]) ∧
    ∀ device ∈ s.devices, ∀ t', DeviceWork s.directories.store device t t' →
      (∀ q bytes, (∀ name, q ≠ t.target (s.directories.reportsOf device.name) ++ [name]) →
        (t'.at? q = some (.file bytes) ↔ t.at? q = some (.file bytes))) ∧
      ∀ other ∈ s.devices, other ≠ device →
        (t.IsClear (s.directories.snapshotsOf other.name) →
          (s.directories.store (.snapshotIds other.name) t').1 =
            (s.directories.store (.snapshotIds other.name) t).1) ∧
        (t.IsClear (s.directories.reportsOf other.name) →
          (s.directories.store (.reportIds other.name) t').1 =
            (s.directories.store (.reportIds other.name) t).1) ∧
        s.directories.store.ReadsAlike other.name t t' := by
  have hinventory := Settings.inventory_of_parse hparse
  have hnodup := Settings.nodup_names hinventory
  have hname : ∀ device ∈ s.devices, Path.IsName device.name :=
    fun device hdevice => (Settings.accepts_of_mem hinventory hdevice).isName
  refine ⟨hnodup, fun device hdevice =>
    ⟨Directories.target_snapshotsOf (hname device hdevice) _ t,
      Directories.target_reportsOf (hname device hdevice) _ t⟩, ?_⟩
  intro device hdevice t' hwork
  have hconfined := Directories.confined_of_work hsound (Settings.accepts_of_mem hinventory hdevice)
    hwork
  constructor
  · intro q bytes hq
    apply hconfined.file
    rintro ⟨_, name, rfl, -, rfl⟩
    apply hq name
    rw [Directories.target_reportsOf (hname device hdevice), List.append_assoc]
    rfl
  · intro other hother hne
    have hother' : other.name ≠ device.name :=
      fun heq => hne (List.inj_on_of_nodup_map hnodup hother hdevice heq)
    have hsnapshots := hdisjoint.isApart_snapshots (hname other hother) (· = device.name)
    have hreports : s.directories.IsApart t (· = device.name) (s.directories.reportsOf other.name) :=
      Directories.isApart_reports (hname other hother) hother'
    exact ⟨Directories.snapshotIds_of_isApart hsound hconfined hsnapshots,
      Directories.reportIds_of_isApart hsound hconfined hreports,
      fun _ hids _ hid =>
        Directories.loadSnapshot_of_confined hconfined hsound hsnapshots.file hids hid,
      fun _ hids _ hid => Directories.loadReport_of_confined hconfined hsound hreports.file hids hid⟩

/-- A tree with a snapshot of each of two devices, and with a report on one of them. -/
def FileTree.pair : FileTree where
  entries := [(["snapshots"], .directory), (["snapshots", "sw1"], .directory),
    (["snapshots", "sw1", "2024-05-01_0900"], .file []), (["snapshots", "sw2"], .directory),
    (["snapshots", "sw2", "2024-05-01_0900"], .file []),
    (["reports"], .directory), (["reports", "sw2"], .directory),
    (["reports", "sw2", "sw2_deviation_2024-04-01_0000.json"], .file [])]
  here := []

/-- One device gets its first report while the other one has one. -/
theorem devices_isolated_pair :
    let s : Settings := { inventory := [⟨"sw1", ""⟩, ⟨"sw2", ""⟩] }
    let t' := ((Auditor.blank.scan ⟨2024, 5, 1, 12, 0, 0⟩ ⟨"sw1", .nonEls⟩ true).run.run
      s.directories.store .pair).2.1
    Settings.parse "[[\"devices\"]]\n\"name\"=\"sw1\"\n[[\"devices\"]]\n\"name\"=\"sw2\"" =
        .ok s ∧
      FileTree.pair.IsSound ∧ s.directories.AreDisjoint .pair ∧
      t'.at? ["reports", "sw1", "sw1_deviation_2024-05-01_1200.json"] ≠ none ∧
      s.directories.reportIds t' "sw2" = .ok ["sw2_deviation_2024-04-01_0000.json"] := by
  intro s t'
  have hparse : Settings.parse
      "[[\"devices\"]]\n\"name\"=\"sw1\"\n[[\"devices\"]]\n\"name\"=\"sw2\"" = .ok s := by
    decide +kernel
  have hsound : FileTree.pair.IsSound := by decide +kernel
  have hdisjoint : s.directories.AreDisjoint .pair := by decide +kernel
  have hclear : FileTree.pair.IsClear (s.directories.reportsOf "sw2") :=
    FileTree.isClear_of_isPlainWay (by decide +kernel)
  have hwork := (devices_isolated _ s .pair hparse hsound hdisjoint).2.2 ⟨"sw1", .nonEls⟩
    (by decide +kernel) t' (.scan _ _ _)
  have hother := hwork.2 ⟨"sw2", .nonEls⟩ (by decide +kernel) (by decide)
  have hbefore : s.directories.reportIds .pair "sw2" =
    .ok ["sw2_deviation_2024-04-01_0000.json"] := by decide +kernel
  exact ⟨hparse, hsound, hdisjoint, by decide +kernel, (hother.2.1 hclear).trans hbefore⟩

/-- A path that goes up from a missing directory leads nowhere until a scan of another device makes
that directory. -/
theorem reportIds_of_detour :
    let locations : Locations := { reports := "missing/../reports" }
    let s : Settings := { locations, inventory := [⟨"sw1", ""⟩, ⟨"sw2", ""⟩] }
    let t' := ((Auditor.blank.scan ⟨2024, 5, 1, 12, 0, 0⟩ ⟨"sw1", .nonEls⟩ false).run.run
      s.directories.store .pair).2.1
    Settings.parse ("[\"paths\"]\n\"reports_dir\"=\"missing/../reports\"\n" ++
        "[[\"devices\"]]\n\"name\"=\"sw1\"\n[[\"devices\"]]\n\"name\"=\"sw2\"") = .ok s ∧
      FileTree.pair.IsSound ∧ s.directories.AreDisjoint .pair ∧
      s.devices = [⟨"sw1", .nonEls⟩, ⟨"sw2", .nonEls⟩] ∧
      s.directories.reportIds .pair "sw2" = .ok [] ∧
      s.directories.reportIds t' "sw2" = .ok ["sw2_deviation_2024-04-01_0000.json"] := by
  intro locations s t'
  refine ⟨?_, ?_, ?_, ?_, ?_, ?_⟩
  all_goals decide +kernel

end Conformance
