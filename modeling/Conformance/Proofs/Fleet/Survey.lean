import Conformance.Proofs.Fleet.Isolation
import Conformance.Watch

/-!
# Audits leave snapshots alone

Fleets are audited and watched in any order and at the same time. As long as snapshots and reports are
kept in different directories, and no report can come to be where a device has its snapshots, all
snapshots stay what they are.
-/
namespace Conformance

open Relation (ReflTransGen)
open Directories (Workplace IsWorkName footprint)

namespace Settings

variable {s : Settings} {t t' : FileTree} {device : Device}

def HasDevice (s : Settings) (name : String) : Prop :=
  ∃ device ∈ s.devices, device.name = name

/-- Snapshots and reports are not in the same directory. If all snapshots are where the reports of one
device are, then no device has the name of a report. -/
structure KeepsSnapshotsApart (s : Settings) (t : FileTree) : Prop where
  ne : t.target s.directories.snapshots ≠ t.target s.directories.reports
  names : ∀ device ∈ s.devices,
    t.target s.directories.snapshots = t.target s.directories.reports ++ [device.name] →
    ∀ other ∈ s.devices, Directories.isReportName other.name = false

theorem mem_devices_of_device? {name : String} (h : s.device? name = some device) :
    device ∈ s.devices := by
  obtain ⟨entry, hentry, rfl⟩ := Option.map_eq_some_iff.mp h
  exact List.mem_map_of_mem (List.mem_of_find?_eq_some hentry)

theorem KeepsSnapshotsApart.isApart (h : s.KeepsSnapshotsApart t) (hsound : t.IsSound)
    (hinventory : inventoryProblems [] 0 s.inventory = [])
    (hsnapshots : s.directories.HasSnapshots t) (hdevice : device ∈ s.devices) :
    s.directories.IsApart t s.HasDevice (s.directories.snapshotsOf device.name) where
  file := by
    rintro name ⟨other, report, -, -, heq⟩
    have hname := (accepts_of_mem hinventory hdevice).isName
    rw [Directories.target_snapshotsOf hname, List.append_assoc] at heq
    exact h.ne (List.append_inj_left' heq rfl)
  way := by
    rintro q ⟨_, report, ⟨other, hother, rfl⟩, hreport, rfl⟩ hq
    have haccepts := accepts_of_mem hinventory hdevice
    rw [Directories.target_snapshotsOf haccepts.isName, List.prefix_concat_iff] at hq
    rcases hq with heq | hq
    · -- The device would have the name of a report, or of one in the making.
      rw [List.append_cons] at heq
      obtain ⟨hroot, hlast⟩ := List.append_inj' heq rfl
      obtain rfl : report = device.name := (List.cons.inj hlast).1
      rcases hreport.2 with hfinished | hunfinished
      · rw [h.names other hother hroot.symm device hdevice] at hfinished
        cases hfinished
      · have hhead := Directories.head?_ne_of_safe haccepts.safe
        simp [Directories.isSnapshotName, hhead] at hunfinished
    · by_cases heq : t.target s.directories.reports ++ [other.name, report] =
        t.target s.directories.snapshots
      · rw [heq]
        exact hsnapshots.directory
      · exact hsound.directory_of_prefix hsnapshots.directory hq heq

end Settings

/-! ## Surveys -/

/-- One thing that happens while the devices of settings are surveyed: a fleet is audited or watched in
one go, or its scans are taken up and come forward one request at a time. -/
inductive Survey (s : Settings) :
    List FleetTask × FileTree → List FleetTask × FileTree → Prop
  | audit (a : Auditor) (now : Moment) (force : Bool) {devices : List Device}
      {tasks : List FleetTask} {t : FileTree} : (∀ device ∈ devices, device ∈ s.devices) →
    Survey s (tasks, t) (tasks, (a.scanAll s.directories.store now force devices t).2)
  | watch (a : Auditor) (now : Moment) (updates : List Update) {tasks : List FleetTask}
      {t : FileTree} :
    Survey s (tasks, t) (tasks, (a.watch s s.directories.store now updates t).2)
  | startFleet (a : Auditor) (force : Bool) {requests : List (Moment × Device)}
      {tasks : List FleetTask} {t : FileTree} : (∀ r ∈ requests, r.2 ∈ s.devices) →
    Survey s (tasks, t) (tasks ++ requests.map fun r => a.task r.1 force r.2, t)
  | advance {c c' : List FleetTask × FileTree} :
    FleetStep s.directories.store c c' → Survey s c c'

section Audits
variable {s : Settings} {t t' : FileTree} (hinventory : Settings.inventoryProblems [] 0 s.inventory = [])
include hinventory

theorem audited_scanAll (a : Auditor) (now : Moment) (force : Bool) {devices : List Device}
    (hdevices : ∀ device ∈ devices, device ∈ s.devices) (hsound : t.IsSound) :
    s.directories.Audited s.HasDevice t
      (a.scanAll s.directories.store now force devices t).2 := by
  induction devices generalizing t with
  | nil => exact .refl _ _ t
  | cons device devices ih =>
    rw [List.forall_mem_cons] at hdevices
    have haccepts := Settings.accepts_of_mem hinventory hdevices.1
    have hscan : s.directories.Audited s.HasDevice t
        ((a.scan now device force).run.run s.directories.store t).2.1 :=
      a.audited_scan haccepts hsound ⟨device, hdevices.1, rfl⟩ now force
    rw [Auditor.scanAll_cons]
    exact hscan.trans (ih hdevices.2 (hscan.sound hsound))

theorem audited_followUpdates (a : Auditor) (updates : List Update) (hsound : t.IsSound) :
    s.directories.Audited s.HasDevice t (a.followUpdates s s.directories.store updates t).2 := by
  induction updates generalizing t with
  | nil => exact .refl _ _ t
  | cons update updates ih =>
    rw [Auditor.followUpdates]
    split
    · exact ih hsound
    · next device hdevice =>
      have hmem : ∀ device' ∈ [device], device' ∈ s.devices := by
        simpa using Settings.mem_devices_of_device? hdevice
      have hscan := audited_scanAll hinventory a update.now false hmem hsound
      exact hscan.trans (ih (hscan.sound hsound))

theorem audited_watch (a : Auditor) (now : Moment) (updates : List Update) (hsound : t.IsSound) :
    s.directories.Audited s.HasDevice t (a.watch s s.directories.store now updates t).2 := by
  have hfirst := audited_scanAll hinventory a now false (fun _ => id) hsound
  exact hfirst.trans (audited_followUpdates hinventory a updates (hfirst.sound hsound))

theorem heeds_of_survey {c c' : List FleetTask × FileTree} (h : Survey s c c')
    (hsound : c.2.IsSound)
    (hheeds : ∀ task ∈ c.1,
      task.program.Heeds (footprint s.directories s.HasDevice) (fun _ _ => True) c.2) :
    s.directories.Audited s.HasDevice c.2 c'.2 ∧ ∀ task ∈ c'.1,
      task.program.Heeds (footprint s.directories s.HasDevice) (fun _ _ => True) c'.2 := by
  cases h with
  | audit a now force hdevices =>
    have haudited := audited_scanAll hinventory a now force hdevices hsound
    exact ⟨haudited, fun task htask => (hheeds task htask).later haudited⟩
  | watch a now updates =>
    have haudited := audited_watch hinventory a now updates hsound
    exact ⟨haudited, fun task htask => (hheeds task htask).later haudited⟩
  | @startFleet a force requests tasks t hrequests =>
    refine ⟨.refl _ _ t, List.forall_mem_append.mpr ⟨hheeds, ?_⟩⟩
    intro task htask
    obtain ⟨r, hr, rfl⟩ := List.mem_map.mp htask
    have haccepts := Settings.accepts_of_mem hinventory (hrequests r hr)
    exact (a.heeds_scan_footprint haccepts ⟨r.2, hrequests r hr, rfl⟩ r.1 force t).imp
      fun _ _ _ => trivial
  | advance hstep =>
    obtain ⟨-, hgrows, htasks⟩ := heeds_of_step hstep hsound hheeds
    exact ⟨hgrows, htasks⟩

theorem audited_of_reachable {c : List FleetTask × FileTree} (hsound : t.IsSound)
    (h : ReflTransGen (Survey s) ([], t) c) :
    s.directories.Audited s.HasDevice t c.2 ∧ ∀ task ∈ c.1,
      task.program.Heeds (footprint s.directories s.HasDevice) (fun _ _ => True) c.2 := by
  induction h with
  | refl => exact ⟨.refl _ _ t, by simp⟩
  | tail _ hstep ih =>
    obtain ⟨haudited, hheeds⟩ := ih
    obtain ⟨hnext, hheeds'⟩ := heeds_of_survey hinventory hstep (haudited.sound hsound) hheeds
    exact ⟨haudited.trans hnext, hheeds'⟩

end Audits

/-- However the devices of accepted settings are audited and watched, the snapshots of each are listed
as before, and those listed are read as before. -/
theorem surveys_keep_snapshots (t₀ : FileTree) (p : Path) (s : Settings) (t : FileTree)
    (hload : Settings.load t₀ p = .ok s) (hsound : t.IsSound) (hapart : s.KeepsSnapshotsApart t)
    (tasks : List FleetTask) (t' : FileTree)
    (hsteps : ReflTransGen (Survey s) ([], t) (tasks, t')) :
    ∀ device ∈ s.devices,
      (s.directories.store (.snapshotIds device.name) t').1 =
        (s.directories.store (.snapshotIds device.name) t).1 ∧
      ∀ ids : List String, (s.directories.store (.snapshotIds device.name) t).1 = .ok ids →
        ∀ id ∈ ids, (s.directories.store (.loadSnapshot device.name id) t').1 =
          (s.directories.store (.loadSnapshot device.name id) t).1 := by
  intro device hdevice
  have hinventory := Settings.inventory_of_load hload
  obtain ⟨haudited, -⟩ := audited_of_reachable hinventory hsound hsteps
  rcases haudited.hasSnapshots with rfl | hsnapshots
  · exact ⟨rfl, fun _ _ _ _ => rfl⟩
  · have hconfined := haudited.confined hsound
    have happart := hapart.isApart hsound hinventory hsnapshots hdevice
    have hname := (Settings.accepts_of_mem hinventory hdevice).isName
    have hclear : t.IsClear (s.directories.snapshotsOf device.name) :=
      FileTree.isClear_join hname hsnapshots.walk hsnapshots.directory
    exact ⟨Directories.snapshotIds_of_isApart hsound hconfined happart hclear,
      fun _ hids _ hid => Directories.loadSnapshot_of_confined hconfined hsound happart.file hids hid⟩

/-- The tree of two devices with a file of settings. -/
def FileTree.configured (text : String) : FileTree :=
  { FileTree.pair with
    entries := (["audit.toml"], .file (Text.toBytes text)) :: FileTree.pair.entries }

/-- A fleet is audited by force, and then its scans are taken up again. -/
theorem surveys_keep_snapshots_pair :
    let s : Settings := { inventory := [⟨"sw1", ""⟩, ⟨"sw2", ""⟩] }
    let t := FileTree.configured
      "[[\"devices\"]]\n\"name\"=\"sw1\"\n[[\"devices\"]]\n\"name\"=\"sw2\""
    let noon : Moment := ⟨2024, 5, 1, 12, 0, 0⟩
    let t' := (Auditor.blank.scanAll s.directories.store noon true s.devices t).2
    let tasks := [(noon, Device.mk "sw1" .nonEls)].map fun r => Auditor.blank.task r.1 false r.2
    Settings.load t "audit.toml" = .ok s ∧ t.IsSound ∧ s.KeepsSnapshotsApart t ∧
      ReflTransGen (Survey s) ([], t) (tasks, t') ∧
      t'.at? ["reports", "sw1", "sw1_deviation_2024-05-01_1200.json"] ≠ none ∧
      Directories.list t' (s.directories.snapshotsOf "sw1") Directories.isSnapshotName =
        .ok ["2024-05-01_0900"] := by
  intro s t noon t' tasks
  have hload : Settings.load t "audit.toml" = .ok s := by decide +kernel
  have hsound : t.IsSound := by decide +kernel
  have hne : t.target s.directories.snapshots ≠ t.target s.directories.reports := by decide +kernel
  have hnames : ∀ other ∈ s.devices, Directories.isReportName other.name = false := by
    decide +kernel
  have hapart : s.KeepsSnapshotsApart t := ⟨hne, fun _ _ _ => hnames⟩
  have hrequests : ∀ r ∈ [(noon, Device.mk "sw1" .nonEls)], r.2 ∈ s.devices := by decide +kernel
  have hsteps : ReflTransGen (Survey s) ([], t) (tasks, t') :=
    (ReflTransGen.single (.audit .blank noon true fun _ => id)).tail
      (.startFleet .blank false hrequests)
  have hkept := surveys_keep_snapshots t "audit.toml" s t hload hsound hapart tasks t' hsteps
    ⟨"sw1", .nonEls⟩ (by decide +kernel)
  have hbefore : Directories.list t (s.directories.snapshotsOf "sw1") Directories.isSnapshotName =
    .ok ["2024-05-01_0900"] := by decide +kernel
  exact ⟨hload, hsound, hapart, hsteps, by decide +kernel, hkept.1.trans hbefore⟩

/-- Where snapshots and reports share a directory, a report is listed as the newest snapshot. Where all
snapshots are among the reports of one device, a report of that device takes the place of the snapshots
of a device that has its name. -/
theorem snapshotIds_of_sharedDirectory :
    let noon : Moment := ⟨2024, 5, 1, 12, 0, 0⟩
    let report := "sw1_deviation_2024-05-01_1200.json"
    (let t : FileTree := ⟨[(["audit.toml"], .file (Text.toBytes ("[\"paths\"]\n" ++
          "\"snapshots_dir\"=\"data\"\n\"reports_dir\"=\"data\"\n" ++
          "[[\"devices\"]]\n\"name\"=\"sw1\""))), (["data"], .directory),
        (["data", "sw1"], .directory), (["data", "sw1", "2024-05-01_0900"], .file [])], []⟩
      let locations : Locations := { snapshots := "data", reports := "data" }
      let s : Settings := { locations, inventory := [⟨"sw1", ""⟩] }
      let t' := (Auditor.blank.scanAll s.directories.store noon false s.devices t).2
      Settings.load t "audit.toml" = .ok s ∧ t.IsSound ∧
        Directories.list t (s.directories.snapshotsOf "sw1") Directories.isSnapshotName =
          .ok ["2024-05-01_0900"] ∧
        Directories.list t' (s.directories.snapshotsOf "sw1") Directories.isSnapshotName =
          .ok ["2024-05-01_0900", report] ∧
        (Stamp.latest? ["2024-05-01_0900", report]).map Prod.snd = some report) ∧
    (let t : FileTree := ⟨[(["audit.toml"], .file (Text.toBytes ("[\"paths\"]\n" ++
          "\"snapshots_dir\"=\"reports/sw1\"\n[[\"devices\"]]\n\"name\"=\"sw1\"\n" ++
          "[[\"devices\"]]\n\"name\"=\"" ++ report ++ "\""))), (["reports"], .directory),
        (["reports", "sw1"], .directory), (["reports", "sw1", "sw1"], .directory),
        (["reports", "sw1", "sw1", "2024-05-01_0900"], .file [])], []⟩
      let locations : Locations := { snapshots := "reports/sw1" }
      let s : Settings := { locations, inventory := [⟨"sw1", ""⟩, ⟨report, ""⟩] }
      let t' := (Auditor.blank.scanAll s.directories.store noon false s.devices t).2
      Settings.load t "audit.toml" = .ok s ∧ t.IsSound ∧
        Directories.list t (s.directories.snapshotsOf report) Directories.isSnapshotName =
          .ok [] ∧
        Directories.list t' (s.directories.snapshotsOf report) Directories.isSnapshotName =
          .error (.files (s.directories.snapshotsOf report) .notADirectory)) := by
  intro noon report
  constructor
  · intro t locations s t'
    refine ⟨?_, ?_, ?_, ?_, ?_⟩
    all_goals decide +kernel
  · intro t locations s t'
    refine ⟨?_, ?_, ?_, ?_⟩
    all_goals decide +kernel

end Conformance
