import Conformance.Proofs.Refresh.History
import Conformance.Proofs.Store.Files

/-!
# Scans come to rest

After a scan that makes a report, this report is the answer to every further scan, and no such scan
changes the store. That ends when a later snapshot arrives, when no snapshot is left, or when others
change the reports.
-/
namespace Conformance

namespace Store

variable {σ : Type} {store : Store σ} {s s' : σ} {device : String} {force : Bool}
  {r : StoredReport}

def Covered (store : Store σ) (device : String) (r : StoredReport) (s : σ) : Prop :=
  ∃ snapshot t, Auditor.latestIn store device s = .ok (some snapshot, some (t, r.id)) ∧
    snapshot.1 ≤ t ∧ (store (.loadReport device r.id) s).1 = .ok r

/-- A change by others that leaves the reports of a device as they are, and the device with
snapshots of which none comes after the report. -/
structure Spares (store : Store σ) (device : String) (r : StoredReport) (s s' : σ) : Prop where
  reportIds : (store (.reportIds device) s').1 = (store (.reportIds device) s).1
  loadReport : ∀ id, (store (.loadReport device id) s').1 = (store (.loadReport device id) s).1
  snapshots : ∃ ids : List String, (store (.snapshotIds device) s').1 = .ok ids ∧
    (∃ id ∈ ids, Stamp.parse id ≠ none) ∧
      ∀ id ∈ ids, ∀ t u, Stamp.parse id = some t → Stamp.parse r.id = some u → t ≤ u

/-- What becomes of a store by further scans of a device and by changes that spare its report. -/
inductive Undisturbed (store : Store σ) (device : Device) (r : StoredReport) (s : σ) : σ → Prop
  | refl : Undisturbed store device r s s
  | scan {later : σ} (a : Auditor) (now : Moment) :
    Undisturbed store device r s later →
    Undisturbed store device r s ((a.scan now device false).run.run store later).2.1
  | change {later last : σ} :
    Undisturbed store device r s later → Spares store device.name r later last →
    Undisturbed store device r s last

/-- A report is the answer to all that is asked about its device from now on. -/
def Settled (store : Store σ) (device : Device) (r : StoredReport) (s : σ) : Prop :=
  ∀ s', Undisturbed store device r s s' →
    (Auditor.freshness device.name).run.run store s' = (.ok .upToDate, s', []) ∧
    (Auditor.latestReport device.name).run.run store s' = (.ok (some r), s', []) ∧
    ∀ (a : Auditor) (now : Moment), (a.scan now device false).run.run store s' =
      (.ok (.upToDate r), s', Auditor.scanCount (.upToDate r))

/-! ## Covered reports stay covered -/

theorem Covered.freshness (hstore : store.KeepsOnReading) (h : Covered store device r s) :
    (Auditor.freshness device).run.run store s = (.ok .upToDate, s, []) := by
  obtain ⟨snapshot, t, hin, hle, -⟩ := h
  have hfresh : Freshness.evaluate (some snapshot.1) (some t) false = .upToDate :=
    Freshness.evaluate_eq_upToDate.mpr ⟨t, rfl, hle⟩
  rw [Auditor.run_freshness hstore hin, Option.map_some, Option.map_some, hfresh]

theorem Covered.latestReport (hstore : store.KeepsOnReading) (h : Covered store device r s) :
    (Auditor.latestReport device).run.run store s = (.ok (some r), s, []) := by
  obtain ⟨_, _, hin, -, hload⟩ := h
  exact Auditor.run_latestReport hstore hin hload

theorem Covered.scan (hstore : store.KeepsOnReading) {device : Device}
    (h : Covered store device.name r s) (a : Auditor) (now : Moment) :
    (a.scan now device false).run.run store s =
      (.ok (.upToDate r), s, Auditor.scanCount (.upToDate r)) := by
  obtain ⟨_, _, hin, hle, hload⟩ := h
  exact Auditor.run_scan_upToDate hstore hin hle hload

theorem exists_latest?_le {ids : List String} {t : Moment} (hsome : ∃ id ∈ ids, Stamp.parse id ≠ none)
    (hle : ∀ id ∈ ids, ∀ u, Stamp.parse id = some u → u ≤ t) :
    ∃ snapshot, Stamp.latest? ids = some snapshot ∧ snapshot.1 ≤ t := by
  cases hlatest : Stamp.latest? ids with
  | none =>
    obtain ⟨id, hid, hstamp⟩ := hsome
    exact absurd (Stamp.latest?_eq_none.mp hlatest id hid) hstamp
  | some snapshot =>
    obtain ⟨hmem, hparse, -⟩ := Stamp.latest?_eq_some.mp hlatest
    exact ⟨snapshot, rfl, hle _ hmem _ hparse⟩

theorem Covered.spared (h : Covered store device r s) (hspares : Spares store device r s s') :
    Covered store device r s' := by
  obtain ⟨snapshot, t, hin, hle, hload⟩ := h
  obtain ⟨_, reports, _, hreports, _, hreport⟩ := Auditor.latestIn_eq_ok hin
  obtain ⟨ids, hids, hsome, hall⟩ := hspares.snapshots
  have hparse := (Stamp.latest?_eq_some.mp hreport.symm).2.1
  obtain ⟨snapshot', hlatest, hle'⟩ :=
    exists_latest?_le hsome fun id hid u hu => hall id hid u t hu hparse
  refine ⟨snapshot', t, ?_, hle', (hspares.loadReport r.id).trans hload⟩
  rw [Auditor.latestIn, hids, hspares.reportIds, hreports]
  simp only [hlatest, ← hreport]

theorem Undisturbed.covered (hstore : store.KeepsOnReading) {device : Device}
    (h : Undisturbed store device r s s') (hcovered : Covered store device.name r s) :
    Covered store device.name r s' := by
  induction h with
  | refl => exact hcovered
  | scan a now _ ih =>
    rw [ih.scan hstore a now]
    exact ih
  | change _ hspares ih => exact ih.spared hspares

theorem Covered.settled (hstore : store.KeepsOnReading) {device : Device}
    (h : Covered store device.name r s) : Settled store device r s := by
  intro s' hundisturbed
  have hcovered := hundisturbed.covered hstore h
  exact ⟨hcovered.freshness hstore, hcovered.latestReport hstore, hcovered.scan hstore⟩

/-! ## New reports are covered -/

variable {now : Moment} {d : Device} {snapshot : Moment × String}
  {found : Augmentation × DeviationReport}

theorem Renewed.covered (hreal : now.isReal = true) (hyear : now.year ≤ 9999)
    {report : Option (Moment × String)}
    (hin : Auditor.latestIn store d.name s = .ok (some snapshot, report))
    (hdue : Auditor.IsDue force snapshot report)
    (h : Renewed store d.name force snapshot.2 (Auditor.reportOn now d snapshot found) s s') :
    Covered store d.name (Auditor.reportOn now d snapshot found) s' := by
  obtain ⟨snapshots, reports, hsnapshots, hreports, hsnapshot, rfl⟩ := Auditor.latestIn_eq_ok hin
  obtain ⟨hmem, hstamp, hmax⟩ := Stamp.latest?_eq_some.mp hsnapshot.symm
  have hparse : Stamp.parse (Auditor.reportOn now d snapshot found).id =
      some (Auditor.reportMoment now snapshot) := Auditor.parse_reportOn hreal hyear hstamp
  have hle := Auditor.le_reportMoment hreal hyear hstamp
  obtain ⟨reports', hreports', hmem', hold⟩ := h.reports reports hreports
  obtain ⟨snapshots', hsnapshots', hsome, hold'⟩ := h.snapshots snapshots hsnapshots hmem
  have hreport : Stamp.latest? reports' = some (Auditor.reportMoment now snapshot,
      (Auditor.reportOn now d snapshot found).id) := by
    refine Stamp.latest?_eq_some.mpr ⟨hmem', hparse, ?_⟩
    intro id hid t ht
    rcases hold id hid with rfl | ⟨rfl, hid⟩
    · rw [hparse] at ht
      cases ht
      exact le_rfl
    · have hlt := Auditor.lt_reportMoment_of_isDue hreal hyear hstamp hdue hid ht
      exact (Prod.Lex.toLex_lt_toLex.mpr (.inl hlt)).le
  obtain ⟨snapshot', hlatest, hle'⟩ : ∃ snapshot', Stamp.latest? snapshots' = some snapshot' ∧
      snapshot'.1 ≤ Auditor.reportMoment now snapshot := by
    apply exists_latest?_le
    · rcases hsome with hid | hid
      · exact ⟨_, hid, by simp [hstamp]⟩
      · exact ⟨_, hid, by simp [hparse]⟩
    · intro id hid u hu
      rcases hold' id hid with rfl | hid
      · rw [hparse] at hu
        cases hu
        exact le_rfl
      · exact (Prod.Lex.monotone_fst _ _ (hmax id hid u hu)).trans hle
  refine ⟨snapshot', Auditor.reportMoment now snapshot, ?_, hle', h.loaded⟩
  rw [Auditor.latestIn, hsnapshots', hreports']
  simp only [hlatest, hreport]

end Store

variable {a : Auditor} {now : Moment} {device : Device} {force : Bool} {r : StoredReport} {n : Nat}

theorem Memory.covered_of_scan (hreal : now.isReal = true) (hyear : now.year ≤ 9999) {m : Memory}
    (h : ((a.scan now device force).run.run store m).1 = .ok (.refreshed r n)) :
    Store.Covered store device.name r ((a.scan now device force).run.run store m).2.1 := by
  obtain ⟨snapshot, report, found, m', id, hin, hdue, rfl, hdiscard, hsave⟩ :=
    Auditor.saved_of_scan keepsOnReading h
  exact (renewed_of_save (r := Auditor.reportOn now device snapshot found) snapshot.2 hdiscard
    hsave).covered hreal hyear hin hdue

/-- A snapshot that arrives spares a report unless its stamp is after the report's. -/
theorem Memory.spares_addSnapshot {m : Memory} {name : String}
    (h : Store.Covered store name r m) (device id : String) (lines : List String)
    (hid : device = name → ∀ t u, Stamp.parse id = some t → Stamp.parse r.id = some u → t ≤ u) :
    Store.Spares store name r m (m.addSnapshot device id lines) := by
  have hreports : ((m.addSnapshot device id lines).of name).reports = (m.of name).reports := by
    by_cases hname : name = device
    · rw [hname, of_addSnapshot_self]
    · rw [of_addSnapshot_of_ne hname]
  have hkeys : ∀ x, x ∈ ((m.addSnapshot device id lines).of name).snapshots.keys ↔
      device = name ∧ x = id ∨ x ∈ (m.of name).snapshots.keys := by
    intro x
    by_cases hname : name = device
    · rw [hname, of_addSnapshot_self, Catalog.mem_keys_insert, and_iff_right rfl]
    · rw [of_addSnapshot_of_ne hname, or_iff_right fun h => hname h.1.symm]
  obtain ⟨snapshot, t, hin, hle, -⟩ := h
  obtain ⟨hsnapshot, hreport⟩ := Prod.mk.inj (Except.ok.inj hin)
  obtain ⟨hmem, hparse, hmax⟩ := Stamp.latest?_eq_some.mp hsnapshot
  have hreportIds : (Except.ok ((m.addSnapshot device id lines).of name).reports.keys :
      Except StoreError (List String)) = .ok (m.of name).reports.keys := by rw [hreports]
  have hload : ∀ x, found name .report x (((m.addSnapshot device id lines).of name).reports.get? x) =
      found name .report x ((m.of name).reports.get? x) := by
    intro x
    rw [hreports]
  refine ⟨hreportIds, hload, _, rfl, ⟨snapshot.2, (hkeys _).mpr (.inr hmem), by simp [hparse]⟩, ?_⟩
  intro x hx u v hu hv
  rcases (hkeys x).mp hx with ⟨hname, rfl⟩ | hx
  · exact hid hname u v hu hv
  · rw [(Stamp.latest?_eq_some.mp hreport).2.1] at hv
    cases hv
    exact (Prod.Lex.monotone_fst _ _ (hmax x hx u hu)).trans hle

theorem Directories.covered_of_scan (hreal : now.isReal = true) (hyear : now.year ≤ 9999)
    {d : Directories} {t : FileTree} (hsound : t.IsSound)
    (hdevice : Settings.isUnsafe device.name = false)
    (hroute : ".." ∉ Path.steps d.reports ∨ t.isDirectory (d.reportsOf device.name) = true)
    (h : ((a.scan now device force).run.run d.store t).1 = .ok (.refreshed r n)) :
    Store.Covered d.store device.name r ((a.scan now device force).run.run d.store t).2.1 := by
  obtain ⟨snapshot, report, found, t', id, hin, hdue, rfl, hdiscard, hsave⟩ :=
    Auditor.saved_of_scan d.keepsOnReading h
  have hstamp : '/' ∉ (Auditor.reportOn now device snapshot found).generatedAt.toList :=
    Stamp.not_mem_format (by decide) (by decide) _
  exact (renewed (r := Auditor.reportOn now device snapshot found) hsound hdevice hstamp
    (hroute.imp_left (up_not_mem_reportsOf hdevice)) hdiscard hsave).covered hreal hyear hin hdue

/-- A tree with a snapshot, and with a report whose stamp is later than the clock below. -/
def FileTree.ahead : FileTree where
  entries := [(["snapshots"], .directory), (["snapshots", "sw1"], .directory),
    (["snapshots", "sw1", "2024-05-01_0900"], .file []),
    (["reports"], .directory), (["reports", "sw1"], .directory),
    (["reports", "sw1", "sw1_deviation_2030-01-01_0000.json"],
      .file (Text.toBytes "[\"sw1\",\"\",\"\",\"els\",[[],[],\"clean\"]]"))]
  here := []

/-- A path that goes up from a missing directory leads nowhere until a report is saved, and then to
reports that the scan has not seen. -/
theorem latestReport_of_detour :
    ∃ r old, FileTree.ahead.IsSound ∧ old ≠ r ∧
      ((Auditor.blank.scan ⟨2024, 5, 1, 12, 0, 0⟩ ⟨"sw1", .els⟩ false).run.run
        (Directories.mk "snapshots" "missing/../reports").store .ahead).1 =
          .ok (.refreshed r 0) ∧
      ((Auditor.latestReport "sw1").run.run (Directories.mk "snapshots" "missing/../reports").store
        ((Auditor.blank.scan ⟨2024, 5, 1, 12, 0, 0⟩ ⟨"sw1", .els⟩ false).run.run
          (Directories.mk "snapshots" "missing/../reports").store .ahead).2.1).1 =
          .ok (some old) :=
  ⟨⟨"sw1", "2024-05-01_1200", "2024-05-01_0900", .els, ⟨[], [], .clean⟩⟩,
    ⟨"sw1", "", "", .els, ⟨[], [], .clean⟩⟩, by decide +kernel, by decide, by decide +kernel,
    by decide +kernel⟩

/-- Over a store in memory, and over a file tree in which the path to the reports does not go up
from a directory that is still to be made, a new report settles its device. In memory it is not
disturbed by the arrival of snapshots, except by one of the device with a later stamp. -/
theorem scan_settles (a : Auditor) (now : Moment) (device : Device) (force : Bool)
    (r : StoredReport) (n : Nat) (hreal : now.isReal = true) (hyear : now.year ≤ 9999) :
    (∀ m : Memory, ((a.scan now device force).run.run Memory.store m).1 = .ok (.refreshed r n) →
      Store.Settled Memory.store device r
        ((a.scan now device force).run.run Memory.store m).2.1 ∧
      ∀ later : Memory, Store.Undisturbed Memory.store device r
          ((a.scan now device force).run.run Memory.store m).2.1 later →
        ∀ (name id : String) (lines : List String),
          (name = device.name →
            ∀ t u, Stamp.parse id = some t → Stamp.parse r.id = some u → t ≤ u) →
          Store.Undisturbed Memory.store device r
            ((a.scan now device force).run.run Memory.store m).2.1
            (later.addSnapshot name id lines)) ∧
    ∀ (d : Directories) (t : FileTree), t.IsSound → Settings.isUnsafe device.name = false →
      (".." ∉ Path.steps d.reports ∨ t.isDirectory (d.reportsOf device.name) = true) →
      ((a.scan now device force).run.run d.store t).1 = .ok (.refreshed r n) →
      Store.Settled d.store device r ((a.scan now device force).run.run d.store t).2.1 := by
  constructor
  · intro m h
    have hcovered := Memory.covered_of_scan hreal hyear h
    refine ⟨hcovered.settled Memory.keepsOnReading, fun later hlater name id lines hid => ?_⟩
    exact hlater.change
      (Memory.spares_addSnapshot (hlater.covered Memory.keepsOnReading hcovered) name id lines hid)
  · intro d t hsound hdevice hroute h
    exact (Directories.covered_of_scan hreal hyear hsound hdevice hroute h).settled d.keepsOnReading

/-- With force, a scan settles a device that had a later report. A snapshot with the report's stamp
does not disturb it. -/
theorem scan_settles_ahead :
    ∃ r m, m = (Memory.addSnapshot .empty "sw1" "2024-05-01_0900" []).withReports "sw1"
        (.ofList [("sw1_deviation_2030-01-01_0000.json",
          ⟨"sw1", "", "", .els, ⟨[], [], .clean⟩⟩)]) ∧
      Store.Settled Memory.store ⟨"sw1", .els⟩ r
        ((Auditor.blank.scan ⟨2024, 5, 1, 12, 0, 0⟩ ⟨"sw1", .els⟩ true).run.run
          Memory.store m).2.1 ∧
      Store.Undisturbed Memory.store ⟨"sw1", .els⟩ r
        ((Auditor.blank.scan ⟨2024, 5, 1, 12, 0, 0⟩ ⟨"sw1", .els⟩ true).run.run
          Memory.store m).2.1
        (((Auditor.blank.scan ⟨2024, 5, 1, 12, 0, 0⟩ ⟨"sw1", .els⟩ true).run.run
          Memory.store m).2.1.addSnapshot "sw1" "2024-05-01_1200" []) ∧
      Store.Settled (Directories.mk "snapshots" "reports").store ⟨"sw1", .els⟩ r
        ((Auditor.blank.scan ⟨2024, 5, 1, 12, 0, 0⟩ ⟨"sw1", .els⟩ true).run.run
          (Directories.mk "snapshots" "reports").store .ahead).2.1 := by
  have hsettles := scan_settles .blank ⟨2024, 5, 1, 12, 0, 0⟩ ⟨"sw1", .els⟩ true
    ⟨"sw1", "2024-05-01_1200", "2024-05-01_0900", .els, ⟨[], [], .clean⟩⟩ 1 rfl (by decide)
  have hsame : Stamp.parse "2024-05-01_1200" =
      Stamp.parse (StoredReport.idOf "sw1" "2024-05-01_1200") := by decide +kernel
  obtain ⟨hmemory, harrives⟩ := hsettles.1
    ((Memory.addSnapshot .empty "sw1" "2024-05-01_0900" []).withReports "sw1"
      (.ofList [("sw1_deviation_2030-01-01_0000.json",
        ⟨"sw1", "", "", .els, ⟨[], [], .clean⟩⟩)])) (by decide +kernel)
  refine ⟨_, _, rfl, hmemory, harrives _ .refl "sw1" "2024-05-01_1200" [] ?_,
    hsettles.2 _ _ (by decide +kernel) (by decide +kernel) (.inl (by decide +kernel))
      (by decide +kernel)⟩
  rintro - t u ht hu
  exact (Option.some.inj (ht.symm.trans (hsame.trans hu))).le

end Conformance
