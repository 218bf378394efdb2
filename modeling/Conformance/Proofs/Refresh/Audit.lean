import Conformance.Proofs.Except
import Conformance.Proofs.Store.Files
import Conformance.Proofs.Store.Memory

/-!
# What a new report depends on

A scan that comes to audit a snapshot takes nothing but its lines from the store. Whether the
templates compile, and what is found, is decided by these lines, the library, the mapping and the
family, so that two scans find the same wherever they come to audit the same lines.
-/
namespace Conformance

variable {σ τ : Type} {store : Store σ} {s : σ} {a : Auditor} {now : Moment} {device : Device}
  {force : Bool} {lines : List String}

/-! ## Templates -/

namespace Library

variable {library : Library} {mapping : Mapping} {augmentation : Augmentation}

theorem augmentation_of_compileWith {compiled : CompiledTemplates}
    (h : library.compileWith mapping augmentation = .ok compiled) :
    compiled.augmentation = augmentation := by
  obtain ⟨baseline, -, h⟩ := Except.bind_eq_ok.mp h
  obtain ⟨added, -, h⟩ := Except.bind_eq_ok.mp h
  obtain ⟨optional, -, h⟩ := Except.bind_eq_ok.mp h
  cases h
  rfl

end Library

namespace Auditor

def augmentationFor (device : Device) (lines : List String) : Augmentation :=
  .ofProfile ⟨device.family, runsRouting lines⟩

theorem augmentationFor_congr {other : Device}
    (h : device.family = other.family ∨ runsRouting lines = true) :
    augmentationFor device lines = augmentationFor other lines := by
  rcases h with h | h
  · rw [augmentationFor, augmentationFor, h]
  · simp [augmentationFor, Augmentation.ofProfile, h]

theorem audit_eq (a : Auditor) (device : Device) (lines : List String) :
    a.audit device lines = do
      let compiled ← a.library.compileWith a.mapping (augmentationFor device lines)
      return (compiled.augmentation, findDeviations compiled.mandatory compiled.optional lines) :=
  rfl

/-- The name of a device makes no difference to an audit, and with routing neither does its family. -/
theorem audit_congr (a : Auditor) {other : Device}
    (h : device.family = other.family ∨ runsRouting lines = true) :
    a.audit device lines = a.audit other lines := by
  rw [audit_eq, audit_eq, augmentationFor_congr h]

theorem exists_of_audit_eq_ok {found : Augmentation × DeviationReport}
    (h : a.audit device lines = .ok found) :
    ∃ compiled, a.library.compileWith a.mapping (augmentationFor device lines) = .ok compiled ∧
      found = (augmentationFor device lines,
        findDeviations compiled.mandatory compiled.optional lines) := by
  obtain ⟨compiled, hcompiled, h⟩ := Except.bind_eq_ok.mp ((audit_eq a device lines).symm.trans h)
  cases h
  exact ⟨compiled, hcompiled, by rw [Library.augmentation_of_compileWith hcompiled]⟩

end Auditor

/-! ## Coming to an audit -/

/-- A scan audits the lines of the newest snapshot: the snapshot can be loaded, and no report covers
it, or the audit is forced. -/
structure Store.ComesToAudit (store : Store σ) (device : String) (force : Bool)
    (snapshot : Moment × String) (lines : List String) (s : σ) : Prop where
  due : ∃ report, Auditor.latestIn store device s = .ok (some snapshot, report) ∧
    Auditor.IsDue force snapshot report
  loaded : (store (.loadSnapshot device snapshot.2) s).1 = .ok lines

theorem Store.ComesToAudit.parse_eq {name : String} {snapshot : Moment × String}
    (h : store.ComesToAudit name force snapshot lines s) :
    Stamp.parse snapshot.2 = some snapshot.1 := by
  obtain ⟨report, hin, -⟩ := h.due
  obtain ⟨snapshots, reports, -, -, hlatest, -⟩ := Auditor.latestIn_eq_ok hin
  exact (Stamp.latest?_eq_some.mp hlatest.symm).2.1

namespace Auditor

/-- The rest of a scan once an audit has found this. -/
def conclude (now : Moment) (device : Device) (force : Bool) (snapshot : Moment × String)
    (found : Augmentation × DeviationReport) : Scan Outcome := do
  let outcome ← keep now device force snapshot found
  Scan.count (.scans outcome.name outcome.status?) 1
  return outcome

variable {snapshot : Moment × String}

theorem run_scan_uncompiled (hstore : store.KeepsOnReading) {cause : CompileError}
    (h : store.ComesToAudit device.name force snapshot lines s)
    (haudit : a.audit device lines = .error cause) :
    (a.scan now device force).run.run store s =
      (.error (.compile device.name cause), s, [⟨.compileFailures, 1⟩]) := by
  obtain ⟨report, hin, hdue⟩ := h.due
  apply run_scan_error hstore hin
  rw [decide_due a now device hdue]
  exact run_refresh_error hstore h.loaded haudit

theorem run_scan_audited (hstore : store.KeepsOnReading) {found : Augmentation × DeviationReport}
    (h : store.ComesToAudit device.name force snapshot lines s)
    (haudit : a.audit device lines = .ok found) :
    (a.scan now device force).run.run store s =
      (conclude now device force snapshot found).run.run store s := by
  obtain ⟨report, hin, hdue⟩ := h.due
  refine (run_scan hstore hin).trans (Scan.run_bind_congr _ ?_)
  rw [decide_due a now device hdue]
  exact run_refresh_ok hstore h.loaded haudit

/-- A scan without force that cannot save its report has only that to say. -/
theorem run_scan_unsaved (hstore : store.KeepsOnReading) {found : Augmentation × DeviationReport}
    {cause : StoreError} {s' : σ} (h : store.ComesToAudit device.name false snapshot lines s)
    (haudit : a.audit device lines = .ok found)
    (hsave : store (.saveReport (reportOn now device snapshot found)) s = (.error cause, s')) :
    (a.scan now device false).run.run store s =
      (.error (.store cause), s', lineCounts found.2) := by
  have hcause : (store (.saveReport (reportOn now device snapshot found)) s).1 = .error cause := by
    rw [hsave]
  have hlast : (save now device snapshot found 0).run.run store s =
      (.error (.store cause), s', []) := by
    rw [save, Scan.run_ask_error _ hcause, hsave]
  have hkeep : (keep now device false snapshot found).run.run store s =
      (.error (.store cause), s', lineCounts found.2) := by
    rw [keep, Scan.run_count, Scan.run_count]
    exact congrArg (fun run => Program.counting _ (Program.counting _ run)) hlast
  exact (run_scan_audited hstore h haudit).trans (Scan.run_bind_error _ hkeep)

/-- The answer to a scan that found this about a snapshot: the new report says so, unless the store
fails. -/
def Finds (result : Except ScanError Outcome) (id : String)
    (found : Augmentation × DeviationReport) : Prop :=
  (∃ cause, result = .error (.store cause)) ∨
    ∃ r n, result = .ok (.refreshed r n) ∧ r.snapshot = id ∧ r.augmentation = found.1 ∧
      r.report = found.2

theorem Finds.of_refreshed {id : String} {found : Augmentation × DeviationReport} {r : StoredReport}
    {n : Nat} (h : Finds (.ok (.refreshed r n)) id found) :
    r.snapshot = id ∧ r.augmentation = found.1 ∧ r.report = found.2 := by
  rcases h with ⟨cause, h⟩ | ⟨r', n', h, hr⟩
  · cases h
  · cases h
    exact hr

theorem finds_save (now : Moment) (device : Device) (snapshot : Moment × String)
    (found : Augmentation × DeviationReport) (n : Nat) (s : σ) :
    Finds ((save now device snapshot found n).run.run store s).1 snapshot.2 found := by
  unfold save
  cases h : (store (.saveReport (reportOn now device snapshot found)) s).1 with
  | error cause =>
    rw [Scan.run_ask_error _ h]
    exact .inl ⟨cause, rfl⟩
  | ok id =>
    rw [Scan.run_ask_ok _ h]
    exact .inr ⟨_, n, rfl, rfl, rfl, rfl⟩

theorem finds_keep (now : Moment) (device : Device) (force : Bool) (snapshot : Moment × String)
    (found : Augmentation × DeviationReport) (s : σ) :
    Finds ((keep now device force snapshot found).run.run store s).1 snapshot.2 found := by
  unfold keep
  rw [Scan.run_count, Scan.run_count]
  cases force with
  | false => exact finds_save now device snapshot found 0 s
  | true =>
    rw [if_pos rfl]
    cases h : (store (.discardReports device.name) s).1 with
    | error cause =>
      rw [Scan.run_ask_error _ h]
      exact .inl ⟨cause, rfl⟩
    | ok n =>
      rw [Scan.run_ask_ok _ h]
      exact finds_save now device snapshot found n _

theorem finds_conclude (now : Moment) (device : Device) (force : Bool) (snapshot : Moment × String)
    (found : Augmentation × DeviationReport) (s : σ) :
    Finds ((conclude now device force snapshot found).run.run store s).1 snapshot.2 found := by
  have hkeep : Finds ((keep now device force snapshot found).run.run store s).1 snapshot.2 found :=
    finds_keep now device force snapshot found s
  unfold conclude
  rcases hrun : (keep now device force snapshot found).run.run store s with
    ⟨cause | outcome, s', counted⟩
  · rw [Scan.run_bind_error _ hrun]
    rw [hrun] at hkeep
    exact hkeep
  · rw [Scan.run_bind_ok _ hrun]
    rw [hrun] at hkeep
    exact hkeep

/-! ## Two scans -/

/-- Scans that come to audit the same newest snapshot either fail to compile in the same way or find
the same: what else the stores hold, the clock and what is forced make no difference, and neither
does the family if the snapshot has routing. -/
theorem scan_determined (hstore : store.KeepsOnReading) {store' : Store τ}
    (hstore' : store'.KeepsOnReading) (a : Auditor) (now now' : Moment) (device other : Device)
    (hname : device.name = other.name) {force force' : Bool} {snapshot snapshot' : Moment × String}
    (hid : snapshot.2 = snapshot'.2) {lines : List String}
    (hfamily : device.family = other.family ∨ runsRouting lines = true) {s : σ} {s' : τ}
    (h : store.ComesToAudit device.name force snapshot lines s)
    (h' : store'.ComesToAudit other.name force' snapshot' lines s') :
    (∃ cause,
      ((a.scan now device force).run.run store s).1 = .error (.compile device.name cause) ∧
      ((a.scan now' other force').run.run store' s').1 = .error (.compile device.name cause)) ∨
    ∃ found,
      (a.scan now device force).run.run store s =
        (conclude now device force snapshot found).run.run store s ∧
      (a.scan now' other force').run.run store' s' =
        (conclude now' other force' snapshot found).run.run store' s' ∧
      Finds ((a.scan now device force).run.run store s).1 snapshot.2 found ∧
      Finds ((a.scan now' other force').run.run store' s').1 snapshot.2 found := by
  obtain rfl : snapshot = snapshot' := by
    refine Prod.ext (Option.some.inj ?_) hid
    rw [← h.parse_eq, ← h'.parse_eq, hid]
  have hsame := audit_congr a hfamily
  cases haudit : a.audit device lines with
  | error cause =>
    rw [haudit] at hsame
    rw [run_scan_uncompiled hstore h haudit, run_scan_uncompiled hstore' h' hsame.symm, hname]
    exact .inl ⟨cause, rfl, rfl⟩
  | ok found =>
    rw [haudit] at hsame
    rw [run_scan_audited hstore h haudit, run_scan_audited hstore' h' hsame.symm]
    exact .inr ⟨found, rfl, rfl, finds_conclude .., finds_conclude ..⟩

def corruptTree : FileTree where
  entries := [(["snapshots"], .directory), (["snapshots", "sw1"], .directory),
    (["snapshots", "sw1", "2024-05-01_0900"],
      .file (Text.toBytes "set protocols ospf\nset a\n")),
    (["reports"], .directory), (["reports", "sw1"], .directory),
    (["reports", "sw1", "sw1_deviation_2030-01-01_0000.json"], .file (Text.toBytes "?"))]
  here := []

/-- The same snapshot in memory, among others, of a device of the other family. -/
theorem scan_determined_corrupt :
    let a : Auditor := ⟨⟨[], [⟨1, "set b"⟩], [⟨1, "set c"⟩], [⟨1, "set d"⟩], []⟩, .empty⟩
    let m : Memory := ((Memory.addSnapshot .empty "sw1" "2024-05-01_0900"
      ["set protocols ospf", "set a"]).addSnapshot "sw1" "2024-04-01_0900" ["set b"]).addSnapshot
        "sw1" "unstamped" []
    ∃ r r', ((a.scan ⟨2024, 5, 1, 12, 0, 0⟩ ⟨"sw1", .els⟩ false).run.run Memory.store m).1 =
        .ok (.refreshed r 0) ∧
      ((a.scan ⟨1999, 1, 1, 0, 0, 0⟩ ⟨"sw1", .nonEls⟩ true).run.run
        (Directories.mk "snapshots" "reports").store corruptTree).1 = .ok (.refreshed r' 1) ∧
      r.augmentation = r'.augmentation ∧ r.snapshot = r'.snapshot ∧ r.report = r'.report := by
  intro a m
  have hmemory : Memory.store.ComesToAudit "sw1" false (⟨2024, 5, 1, 9, 0, 0⟩, "2024-05-01_0900")
      ["set protocols ospf", "set a"] m :=
    ⟨⟨none, by decide +kernel, .inr fun _ h => nomatch h⟩,
      Memory.loadSnapshot_eq (by decide +kernel)⟩
  have hload : Directories.loadSnapshot ⟨"snapshots", "reports"⟩ corruptTree "sw1"
      "2024-05-01_0900" = .ok ["set protocols ospf", "set a"] := by decide +kernel
  have hfiles : (Directories.mk "snapshots" "reports").store.ComesToAudit "sw1" true
      (⟨2024, 5, 1, 9, 0, 0⟩, "2024-05-01_0900") ["set protocols ospf", "set a"] corruptTree :=
    ⟨⟨some (⟨2030, 1, 1, 0, 0, 0⟩, "sw1_deviation_2030-01-01_0000.json"), by decide +kernel,
      .inl rfl⟩, hload⟩
  obtain ⟨r, hr⟩ : ∃ r, ((a.scan ⟨2024, 5, 1, 12, 0, 0⟩ ⟨"sw1", .els⟩ false).run.run
      Memory.store m).1 = .ok (.refreshed r 0) :=
    ⟨⟨"sw1", "2024-05-01_1200", "2024-05-01_0900", .routing,
      ⟨["set d"], ["set protocols ospf", "set a"], .both⟩⟩, by decide +kernel⟩
  obtain ⟨r', hr'⟩ : ∃ r', ((a.scan ⟨1999, 1, 1, 0, 0, 0⟩ ⟨"sw1", .nonEls⟩ true).run.run
      (Directories.mk "snapshots" "reports").store corruptTree).1 = .ok (.refreshed r' 1) :=
    ⟨⟨"sw1", "2024-05-01_0900", "2024-05-01_0900", .routing,
      ⟨["set d"], ["set protocols ospf", "set a"], .both⟩⟩, by decide +kernel⟩
  refine ⟨r, r', hr, hr', ?_⟩
  rcases scan_determined Memory.keepsOnReading (Directories.keepsOnReading _) a
    ⟨2024, 5, 1, 12, 0, 0⟩ ⟨1999, 1, 1, 0, 0, 0⟩ ⟨"sw1", .els⟩ ⟨"sw1", .nonEls⟩ rfl rfl
    (.inr (by decide +kernel)) hmemory hfiles with ⟨cause, h, -⟩ | ⟨found, -, -, h, h'⟩
  · rw [hr] at h
    cases h
  · rw [hr] at h
    rw [hr'] at h'
    obtain ⟨hid, haugmentation, hreport⟩ := h.of_refreshed
    obtain ⟨hid', haugmentation', hreport'⟩ := h'.of_refreshed
    exact ⟨haugmentation.trans haugmentation'.symm, hid.trans hid'.symm,
      hreport.trans hreport'.symm⟩

end Auditor
end Conformance
