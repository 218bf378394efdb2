import Conformance.Proofs.Fleet.Discipline
import Conformance.Proofs.Store.Confinement

/-!
# What scans leave in file trees

Scans of devices write where the reports of these devices are. They write nothing before they have
seen a snapshot, so that the directory of all snapshots is there when they do.
-/
namespace Conformance

namespace Directories

open FileTree (Confined)

variable {d : Directories} {t t' t'' : FileTree} {place : Place} {device : String}
  {names : String → Prop} {r : StoredReport}

/-- The directory of all snapshots is there, and its path leads to it. -/
structure HasSnapshots (d : Directories) (t : FileTree) : Prop where
  walk : t.walk (t.start d.snapshots) (Path.steps d.snapshots) = .ok (t.target d.snapshots)
  directory : t.at? (t.target d.snapshots) = some .directory

theorem HasSnapshots.mono (h : d.HasSnapshots t) (hkeeps : t.Keeps t') : d.HasSnapshots t' := by
  obtain ⟨hwalk, hdirectory⟩ := h
  constructor
  · rw [FileTree.start, hkeeps.here, FileTree.target_congr hkeeps.here]
    exact FileTree.walk_mono hkeeps hwalk
  · rw [FileTree.target_congr hkeeps.here]
    exact hkeeps.directory hdirectory

theorem leadsTo_snapshotsOf (hname : Path.IsName device) :
    t.LeadsTo (d.snapshotsOf device) place ↔
      FileTree.checkPath (d.snapshotsOf device) = .ok () ∧ d.HasSnapshots t ∧
        device.utf8ByteSize ≤ FileTree.longestName ∧ place = t.target d.snapshots ++ [device] ∧
        t.at? place = some .directory := by
  have hstart : t.start (d.snapshotsOf device) = t.start d.snapshots :=
    FileTree.start_join hname t d.snapshots
  have hsteps : Path.steps (d.snapshotsOf device) = Path.steps d.snapshots ++ [device] :=
    Path.steps_join hname d.snapshots
  constructor
  · rintro ⟨hchecked, hwalk, hplace⟩
    rw [hstart, hsteps] at hwalk
    obtain ⟨q, hfront, hlast⟩ := FileTree.walk_append.mp hwalk
    obtain ⟨hdirectory, hlength, rfl⟩ := (FileTree.walk_name hname).mp hlast
    obtain rfl := FileTree.walk_eq_foldl hfront
    exact ⟨hchecked, ⟨hfront, hdirectory⟩, hlength, rfl, hplace⟩
  · rintro ⟨hchecked, hsnapshots, hlength, rfl, hplace⟩
    refine ⟨hchecked, ?_, hplace⟩
    rw [hstart, hsteps, FileTree.walk_append]
    exact ⟨_, hsnapshots.walk, (FileTree.walk_name hname).mpr
      ⟨hsnapshots.directory, hlength, rfl⟩⟩

/-- A tree after devices with certain names were audited: what has changed was changed where their
reports are, and with snapshots there. -/
structure Audited (d : Directories) (names : String → Prop) (t t' : FileTree) : Prop where
  keeps : t.Keeps t'
  sound : t.IsSound → t'.IsSound
  confined : t.IsSound → Confined (Workplace (t.target d.reports) names) t t'
  hasSnapshots : t' = t ∨ d.HasSnapshots t

theorem Audited.refl (d : Directories) (names : String → Prop) (t : FileTree) :
    d.Audited names t t :=
  ⟨.refl t, id, fun _ => .refl _ t, .inl rfl⟩

theorem Audited.trans (h : d.Audited names t t') (h' : d.Audited names t' t'') :
    d.Audited names t t'' where
  keeps := h.keeps.trans h'.keeps
  sound := h'.sound ∘ h.sound
  confined hsound := by
    have hrest := h'.confined (h.sound hsound)
    rw [FileTree.target_congr h.keeps.here] at hrest
    exact (h.confined hsound).trans hrest
  hasSnapshots := by
    rcases h.hasSnapshots with rfl | hthen
    · exact h'.hasSnapshots
    · exact .inr hthen

theorem audited_saveReport (hr : Request.IsAdmitted (.saveReport r)) (hnames : names r.device)
    (hsnapshots : d.HasSnapshots t) : d.Audited names t (d.saveReport t r).2 where
  keeps := (confined_saveReport hr hnames t).keeps
  sound hsound := sound_saveReport hsound hr
  confined _ := confined_saveReport hr hnames t
  hasSnapshots := .inr hsnapshots

theorem audited_discardReports (hdevice : Settings.Accepts device) (hnames : names device)
    (hsnapshots : d.HasSnapshots t) : d.Audited names t (d.discardReports t device).2 where
  keeps := keeps_discardReports t device
  sound hsound := sound_discardReports hsound device
  confined hsound := confined_discardReports hsound hdevice hnames
  hasSnapshots := .inr hsnapshots

/-- Whoever changes reports has a device with one of the names, and has seen snapshots. -/
def footprint (d : Directories) (names : String → Prop) : Discipline d.store where
  sound := FileTree.IsSound
  allowed
    | .saveReport r, t => Request.IsAdmitted (.saveReport r) ∧ names r.device ∧ d.HasSnapshots t
    | .discardReports device, t => Settings.Accepts device ∧ names device ∧ d.HasSnapshots t
    | _, _ => True
  grows := d.Audited names
  refl := .refl d names
  trans := .trans
  grows_request {request t} hallowed := by
    cases request with
    | snapshotIds device => exact .refl d names t
    | loadSnapshot device id => exact .refl d names t
    | reportIds device => exact .refl d names t
    | loadReport device id => exact .refl d names t
    | saveReport r => exact audited_saveReport hallowed.1 hallowed.2.1 hallowed.2.2
    | discardReports device => exact audited_discardReports hallowed.1 hallowed.2.1 hallowed.2.2
  sound_request {request t} hsound hallowed := by
    cases request with
    | snapshotIds device => exact hsound
    | loadSnapshot device id => exact hsound
    | reportIds device => exact hsound
    | loadReport device id => exact hsound
    | saveReport r => exact sound_saveReport hsound hallowed.1
    | discardReports device => exact sound_discardReports hsound device

end Directories

namespace Auditor

open Directories (footprint)

variable {d : Directories} {names : String → Prop} {t : FileTree} {device : Device}
  {snapshot : Moment × String} {found : Augmentation × DeviationReport}

/-- Whatever other scans of the devices do meanwhile, a scan changes nothing but reports, and that
with snapshots there. -/
theorem heeds_scan_footprint (hdevice : Settings.Accepts device.name) (hnames : names device.name)
    (a : Auditor) (now : Moment) (force : Bool) (t : FileTree) :
    Scan.Heeds (footprint d names) (fun _ _ => True) (a.scan now device force) t := by
  have hlist : Scan.Heeds (footprint d names) (fun ids t' => ids ≠ [] → d.HasSnapshots t')
      (Scan.ask (.snapshotIds device.name)) t := by
    apply Scan.heeds_ask fun t' _ => trivial
    intro t₁ ids _ hids t₂ hgrows hne
    obtain ⟨id, hid⟩ := List.exists_mem_of_ne_nil ids hne
    obtain ⟨place, hlead⟩ := Directories.leadsTo_of_mem_list hids hid
    obtain ⟨-, hsnapshots, -⟩ := (Directories.leadsTo_snapshotsOf hdevice.isName).mp hlead
    exact hsnapshots.mono hgrows.keeps
  have hlatest := heeds_latest_of (D := footprint d names)
    (fun hgrows hids hne => (hids hne).mono hgrows.keeps) hlist fun t' => trivial
  apply heeds_scan_of (P := fun _ t' => d.HasSnapshots t') (hlatest.imp _) fun id t' => trivial
  · intro snapshot t' hsnapshots
    exact heeds_refresh_of (fun hgrows h => h.mono hgrows.keeps) (fun t' => trivial)
      (fun t' h => ⟨hdevice, hnames, h⟩) (fun lines found t' _ h => ⟨⟨hdevice, _, rfl⟩, hnames, h⟩)
      hsnapshots
  · rintro result t' hpost newest heq snapshot hsnapshot
    obtain ⟨ids, hids, hne⟩ := hpost newest heq
    apply hne
    rintro rfl
    rw [hsnapshot] at hids
    cases hids

theorem audited_scan (hdevice : Settings.Accepts device.name) (hsound : t.IsSound)
    (hnames : names device.name) (a : Auditor) (now : Moment) (force : Bool) :
    d.Audited names t ((a.scan now device force).run.run d.store t).2.1 :=
  ((heeds_scan_footprint hdevice hnames a now force t).run hsound).2

end Auditor
end Conformance
