import Conformance.Proofs.Deviation.Remainder
import Conformance.Proofs.Fleet.Discipline
import Conformance.Proofs.Refresh.Audit
import Conformance.Proofs.Refresh.History

/-!
# Where reports come from

A service scans devices, alone or as a fleet, while snapshots arrive, the clock is set, the templates
are replaced and reports are discarded. Whatever the order of these, every report that is kept is one
on a snapshot that is there, not stamped before it, and says what its lists say.
-/
namespace Conformance

open Relation (ReflTransGen)

/-- What is to be said of a report that is kept under an identifier of a device. -/
structure StoredReport.HasProvenance (r : StoredReport) (m : Memory) (device id : String) :
    Prop where
  device_eq : r.device = device
  id_eq : id = idOf device r.generatedAt
  snapshot_mem : r.snapshot ∈ (m.of device).snapshots.keys
  covers : ∃ t u, Stamp.parse r.snapshot = some t ∧ Stamp.parse r.generatedAt = some u ∧ t ≤ u
  status_eq : r.report.status = .ofCounts r.report.missing.length r.report.extra.length
  extra : ∀ line ∈ r.report.extra, Text.trim line = line ∧ isCommandLine line = true

/-- A clock shows a moment of the calendar, in no year of more than four digits. -/
structure Clock where
  now : Moment
  isReal : now.isReal = true
  year_le : now.year ≤ 9999

variable {a : Auditor} {clock : Clock} {device : Device} {force : Bool} {m m' : Memory}

def Memory.Extends (m m' : Memory) : Prop :=
  ∀ device, (m.of device).snapshots.keys ⊆ (m'.of device).snapshots.keys

theorem StoredReport.HasProvenance.later {r : StoredReport} {name id : String}
    (h : r.HasProvenance m name id) (hextends : m.Extends m') : r.HasProvenance m' name id :=
  { h with snapshot_mem := hextends name h.snapshot_mem }

namespace Memory

theorem extends_store (request : Request) (m : Memory) : m.Extends (store request m).2 := by
  intro device
  rw [snapshots_store]
  exact List.Subset.refl _

/-- Snapshots stay, and whoever saves a report knows where it comes from. -/
def provenance : Discipline store where
  sound m := ∀ device id r, (m.of device).reports.get? id = some r → r.HasProvenance m device id
  allowed request m := ∀ r, request = .saveReport r → r.HasProvenance m r.device r.id
  grows := Extends
  refl m device := List.Subset.refl _
  trans h h' device := List.Subset.trans (h device) (h' device)
  grows_request _ := extends_store _ _
  sound_request {request m} hsound hallowed := by
    intro device id r hr
    have hextends := extends_store request m
    rcases reports_store hr with hr | ⟨rfl, rfl, rfl⟩
    · exact (hsound device id r hr).later hextends
    · exact (hallowed r rfl).later hextends

theorem allowed_of_ne {request : Request} (h : ∀ r, request ≠ .saveReport r) (m : Memory) :
    provenance.allowed request m :=
  fun r hr => absurd hr (h r)

end Memory

namespace Auditor

open Memory (provenance)

variable {snapshot : Moment × String} {found : Augmentation × DeviationReport}

theorem hasProvenance_reportOn {lines : List String}
    (hmem : snapshot.2 ∈ (m.of device.name).snapshots.keys)
    (hparse : Stamp.parse snapshot.2 = some snapshot.1)
    (haudit : a.audit device lines = .ok found) :
    (reportOn clock.now device snapshot found).HasProvenance m device.name
      (reportOn clock.now device snapshot found).id := by
  obtain ⟨compiled, -, rfl⟩ := exists_of_audit_eq_ok haudit
  obtain ⟨hreal, hyear, hle⟩ :=
    (Stamp.isStamped_of_parse hparse).latest clock.isReal clock.year_le
  exact {
    device_eq := rfl
    id_eq := rfl
    snapshot_mem := hmem
    covers := ⟨_, _, hparse, Stamp.parse_format hreal hyear, hle⟩
    status_eq := rfl
    extra := fun line hline => mem_commandLines (mem_extra_findDeviations hline) }

/-- The newest snapshot is one of the snapshots, with the moment that its identifier says. -/
theorem heeds_latest (name : String) (m : Memory) :
    Scan.Heeds provenance (fun newest m' => ∀ snapshot, newest.1 = some snapshot →
      snapshot.2 ∈ (m'.of name).snapshots.keys ∧ Stamp.parse snapshot.2 = some snapshot.1)
      (latest name) m := by
  have hlist : Scan.Heeds provenance (fun ids m' => ids ⊆ (m'.of name).snapshots.keys)
      (Scan.ask (.snapshotIds name)) m := by
    apply Scan.heeds_ask (fun m' _ => Memory.allowed_of_ne (by simp) m')
    intro m' ids _ hids m'' hgrows
    obtain rfl : (m'.of name).snapshots.keys = ids := Except.ok.inj hids
    exact hgrows name
  have hlatest := heeds_latest_of (D := provenance)
    (P := fun ids m' => ids ⊆ (m'.of name).snapshots.keys)
    (fun hgrows hids => List.Subset.trans hids (hgrows name)) hlist
    (Memory.allowed_of_ne (by simp))
  refine hlatest.imp ?_
  rintro result m' hpost newest heq snapshot hsnapshot
  obtain ⟨ids, hids, hsubset⟩ := hpost newest heq
  obtain ⟨hmem, hparse, -⟩ := Stamp.latest?_eq_some.mp (hids.symm.trans hsnapshot)
  exact ⟨hsubset hmem, hparse⟩

theorem heeds_refresh (a : Auditor) (clock : Clock) (device : Device) (force : Bool)
    (hmem : snapshot.2 ∈ (m.of device.name).snapshots.keys)
    (hparse : Stamp.parse snapshot.2 = some snapshot.1) :
    Scan.Heeds provenance (fun _ _ => True) (a.refresh clock.now device force snapshot) m := by
  apply heeds_refresh_of (P := fun m' => snapshot.2 ∈ (m'.of device.name).snapshots.keys)
  · exact fun hgrows hmem => hgrows _ hmem
  · exact Memory.allowed_of_ne (by simp)
  · exact fun m' _ => Memory.allowed_of_ne (by simp) m'
  · rintro lines found m' haudit hmem r ⟨⟩
    exact hasProvenance_reportOn hmem hparse haudit
  · exact hmem

theorem heeds_scan (a : Auditor) (clock : Clock) (device : Device) (force : Bool) (m : Memory) :
    Scan.Heeds provenance (fun _ _ => True) (a.scan clock.now device force) m := by
  apply heeds_scan_of (heeds_latest device.name m)
  · exact fun id => Memory.allowed_of_ne (by simp)
  · rintro snapshot m' ⟨hmem, hparse⟩
    exact heeds_refresh a clock device force hmem hparse

end Auditor

/-- What scans devices: the templates and the mapping, a clock, a store in memory, and the scans of
fleets as far as they are still to be run. -/
structure Service where
  auditor : Auditor
  clock : Clock
  memory : Memory
  tasks : List FleetTask

namespace Service

open Memory (provenance)

def start (a : Auditor) (clock : Clock) : Service :=
  ⟨a, clock, .empty, []⟩

/-- One thing that happens to a service. The scans of a fleet read the clock each on its own, and
come forward one request at a time. -/
inductive Step (s : Service) : Service → Prop
  | addSnapshot (device id : String) (lines : List String) :
    Step s { s with memory := s.memory.addSnapshot device id lines }
  | setClock (clock : Clock) : Step s { s with clock }
  | setLibrary (library : Library) : Step s { s with auditor := { s.auditor with library } }
  | setMapping (mapping : Mapping) : Step s { s with auditor := { s.auditor with mapping } }
  | scan (device : Device) (force : Bool) :
    Step s { s with
      memory := ((s.auditor.scan s.clock.now device force).run.run Memory.store s.memory).2.1 }
  | startFleet (requests : List (Clock × Device)) (force : Bool) :
    Step s { s with
      tasks := s.tasks ++ requests.map fun r => s.auditor.task r.1.now force r.2 }
  | advance {tasks : List FleetTask} {memory : Memory} :
    FleetStep Memory.store (s.tasks, s.memory) (tasks, memory) → Step s { s with tasks, memory }
  | discard (device : String) :
    Step s { s with memory := (Memory.store (.discardReports device) s.memory).2 }

/-- All reports have provenance, and the scans on the way will save no others. -/
structure Sound (s : Service) : Prop where
  reports : provenance.sound s.memory
  tasks : ∀ t ∈ s.tasks, t.program.Heeds provenance (fun _ _ => True) s.memory

variable {s s' : Service}

theorem sound_start (a : Auditor) (clock : Clock) : (start a clock).Sound where
  reports _ _ _ h := nomatch h
  tasks _ ht := nomatch ht

/-- The store may change as long as its reports have provenance and its snapshots stay. -/
theorem Sound.withMemory (h : s.Sound) (hsound : provenance.sound m)
    (hgrows : provenance.grows s.memory m) : Sound { s with memory := m } :=
  ⟨hsound, fun t ht => (h.tasks t ht).later hgrows⟩

theorem Sound.addSnapshot (h : s.Sound) (name id : String) (lines : List String) :
    Sound { s with memory := s.memory.addSnapshot name id lines } := by
  have hgrows : s.memory.Extends (s.memory.addSnapshot name id lines) :=
    Memory.keys_subset_addSnapshot s.memory name id lines
  refine h.withMemory ?_ hgrows
  intro device id' r hr
  rw [Memory.reports_addSnapshot] at hr
  exact (h.reports device id' r hr).later hgrows

theorem Sound.startFleet (h : s.Sound) (requests : List (Clock × Device)) (force : Bool) :
    Sound { s with tasks := s.tasks ++ requests.map fun r => s.auditor.task r.1.now force r.2 } := by
  refine ⟨h.reports, ?_⟩
  rw [List.forall_mem_append]
  refine ⟨h.tasks, ?_⟩
  intro t ht
  obtain ⟨r, -, rfl⟩ := List.mem_map.mp ht
  exact (s.auditor.heeds_scan r.1 r.2 force s.memory).imp fun _ _ _ => trivial

theorem Sound.step (h : s.Sound) (hstep : Step s s') : s'.Sound := by
  cases hstep with
  | addSnapshot name id lines => exact h.addSnapshot name id lines
  | setClock clock => exact ⟨h.reports, h.tasks⟩
  | setLibrary library => exact ⟨h.reports, h.tasks⟩
  | setMapping mapping => exact ⟨h.reports, h.tasks⟩
  | scan device force =>
    have hscan := s.auditor.heeds_scan s.clock device force s.memory
    obtain ⟨hsound, hgrows⟩ := hscan.run h.reports
    exact h.withMemory hsound hgrows
  | startFleet requests force => exact h.startFleet requests force
  | advance hstep =>
    obtain ⟨hsound, -, htasks⟩ := heeds_of_step hstep h.reports h.tasks
    exact ⟨hsound, htasks⟩
  | discard device =>
    have hallowed : provenance.allowed (.discardReports device) s.memory :=
      Memory.allowed_of_ne (by simp) s.memory
    exact h.withMemory (provenance.sound_request h.reports hallowed)
      (provenance.grows_request hallowed)

theorem sound_of_reachable (h : ReflTransGen Step (start a clock) s) : s.Sound := by
  induction h with
  | refl => exact sound_start a clock
  | tail _ hstep ih => exact ih.step hstep

/-- Whatever happens to a service that began with an empty store, every report that is kept has
provenance. -/
theorem hasProvenance_of_reachable (a : Auditor) (clock : Clock) (s : Service)
    (h : ReflTransGen Step (start a clock) s) (device id : String) (r : StoredReport)
    (hr : (s.memory.of device).reports.get? id = some r) : r.HasProvenance s.memory device id :=
  (sound_of_reachable h).reports device id r hr

/-- A report with a missing line and an extra one. -/
theorem hasProvenance_of_reachable_both :
    let noon : Clock := ⟨⟨2024, 5, 1, 12, 0, 0⟩, rfl, by decide⟩
    let a : Auditor := ⟨⟨[⟨1, "set a"⟩], [], [], [], []⟩, .empty⟩
    let m : Memory := .addSnapshot .empty "sw1" "2024-05-01_0900" [" set b "]
    let m' : Memory := ((a.scan noon.now ⟨"sw1", .els⟩ false).run.run Memory.store m).2.1
    let r : StoredReport := ⟨"sw1", "2024-05-01_1200", "2024-05-01_0900", .els,
      ⟨["set a"], ["set b"], .both⟩⟩
    ReflTransGen Step (start .blank noon) ⟨a, noon, m', []⟩ ∧
      (m'.of "sw1").reports.get? "sw1_deviation_2024-05-01_1200.json" = some r ∧
      r.HasProvenance m' "sw1" "sw1_deviation_2024-05-01_1200.json" := by
  intro noon a m m' r
  have hsteps : ReflTransGen Step (start .blank noon) ⟨a, noon, m', []⟩ :=
    ((ReflTransGen.single (.setLibrary a.library)).tail
      (.addSnapshot "sw1" "2024-05-01_0900" [" set b "])).tail (.scan ⟨"sw1", .els⟩ false)
  have hr : (m'.of "sw1").reports.get? "sw1_deviation_2024-05-01_1200.json" = some r := by
    decide +kernel
  exact ⟨hsteps, hr, hasProvenance_of_reachable .blank noon _ hsteps "sw1" _ r hr⟩

end Service
end Conformance
