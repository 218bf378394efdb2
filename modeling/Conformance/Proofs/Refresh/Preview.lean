import Conformance.CommandLine.Run
import Conformance.Proofs.Store.Files
import Conformance.Proofs.Store.Memory

/-!
# The status of a device as a preview of its scan

The status of a device and a scan of it start from the same listings. What a scan without force comes
to can be told from the status before it, failures among it, and a scan goes on to a refresh only if
the device is stale. To ask for a status changes nothing.
-/
namespace Conformance

variable {σ α β : Type} {store : Store σ} {s s' : σ} {counted : List Count}

/-! ## Requests -/

def Program.requests (store : Store σ) : Program α → σ → List Request
  | done _, _ => []
  | ask r next, s => r :: (next (store r s).1).requests store (store r s).2
  | count _ next, s => next.requests store s

theorem Program.requests_bind (p : Program α) (f : α → Program β) (s : σ) :
    (p.bind f).requests store s =
      p.requests store s ++ (f (p.run store s).1).requests store (p.run store s).2.1 := by
  induction p generalizing s with
  | done a => simp [bind, requests, run]
  | ask r next ih => simp [bind, requests, run, ih]
  | count event next ih => simp [bind, requests, run, ih]

namespace Scan

variable {p : Scan α} {r : Request}

theorem requests_bind_ok {a : α} (f : α → Scan β) (h : p.run.run store s = (.ok a, s', counted)) :
    (p >>= f).run.requests store s =
      p.run.requests store s ++ (f a).run.requests store s' := by
  have hbind : (p >>= f).run = p.run.bind (ExceptT.bindCont f) := rfl
  rw [hbind, Program.requests_bind, h]
  rfl

theorem requests_bind_error {cause : ScanError} (f : α → Scan β)
    (h : p.run.run store s = (.error cause, s', counted)) :
    (p >>= f).run.requests store s = p.run.requests store s := by
  have hbind : (p >>= f).run = p.run.bind (ExceptT.bindCont f) := rfl
  rw [hbind, Program.requests_bind, h]
  exact List.append_nil _

theorem requests_ask (r : Request) : (ask r).run.requests store s = [r] :=
  rfl

theorem requests_ask_bind (store : Store σ) (s : σ) (r : Request) (f : r.Answer → Scan β) :
    ∃ rest, (ask r >>= f).run.requests store s = r :: rest := by
  have hbind : (ask r >>= f).run = (ask r).run.bind (ExceptT.bindCont f) := rfl
  rw [hbind, Program.requests_bind, requests_ask]
  exact ⟨_, rfl⟩

theorem requests_ask_ok {answer : r.Answer} (f : r.Answer → Scan β)
    (h : (store r s).1 = .ok answer) :
    (ask r >>= f).run.requests store s = r :: (f answer).run.requests store (store r s).2 := by
  rw [requests_bind_ok f (run_ask_of_ok h), requests_ask]
  rfl

theorem run_ask_pure (store : Store σ) (s : σ) (r : Request) (f : r.Answer → α) :
    (ask r >>= fun answer => (return f answer : Scan α)).run.run store s =
      (((store r s).1.map f).mapError .store, (store r s).2, []) := by
  cases h : (store r s).1 with
  | error cause =>
    rw [run_ask_error _ h]
    rfl
  | ok answer =>
    rw [run_ask_ok _ h]
    rfl

end Scan

namespace Auditor

variable {a : Auditor} {now : Moment} {device : Device} {force : Bool}
  {snapshot report : Option (Moment × String)}

theorem requests_refresh (store : Store σ) (a : Auditor) (now : Moment) (device : Device) (force : Bool)
    (snapshot : Moment × String) (s : σ) :
    ∃ rest, (a.refresh now device force snapshot).run.requests store s =
      .loadSnapshot device.name snapshot.2 :: rest :=
  Scan.requests_ask_bind store s _ _

theorem requests_latest (hstore : store.KeepsOnReading) {name : String}
    (hin : latestIn store name s = .ok (snapshot, report)) :
    (latest name).run.requests store s = [.snapshotIds name, .reportIds name] := by
  obtain ⟨snapshots, reports, hsnapshots, hreports, -, -⟩ := latestIn_eq_ok hin
  have hkept := hstore.snapshotIds name s
  have hreports' : (store (.reportIds name) (store (.snapshotIds name) s).2).1 = .ok reports := by
    rw [hkept, hreports]
  unfold latest
  rw [Scan.requests_ask_ok _ hsnapshots, Scan.requests_ask_ok _ hreports']
  rfl

theorem requests_scan (hstore : store.KeepsOnReading)
    (hin : latestIn store device.name s = .ok (snapshot, report)) :
    (a.scan now device force).run.requests store s =
      [.snapshotIds device.name, .reportIds device.name] ++
        (a.decide now device force snapshot report).run.requests store s := by
  have hlatest := run_latest (s := s) hstore device.name
  rw [hin] at hlatest
  have hafter : ((do
      let outcome ← a.decide now device force snapshot report
      Scan.count (.scans outcome.name outcome.status?) 1
      return outcome : Scan Outcome)).run.requests store s =
        (a.decide now device force snapshot report).run.requests store s := by
    rcases hdecide : (a.decide now device force snapshot report).run.run store s with
      ⟨cause | outcome, s', counted⟩
    · exact Scan.requests_bind_error _ hdecide
    · exact (Scan.requests_bind_ok _ hdecide).trans (List.append_nil _)
  rw [← hafter, ← requests_latest hstore hin]
  exact Scan.requests_bind_ok _ hlatest

/-- A scan goes on to a refresh of the newest snapshot: it asks for what the refresh asks for, and
ends as the refresh does. -/
def GoesOn (store : Store σ) (a : Auditor) (now : Moment) (device : Device) (force : Bool)
    (s : σ) : Prop :=
  ∃ snapshot report, latestIn store device.name s = .ok (some snapshot, report) ∧
    (a.scan now device force).run.requests store s =
      [.snapshotIds device.name, .reportIds device.name] ++
        (a.refresh now device force snapshot).run.requests store s ∧
    ((a.scan now device force).run.run store s).1 =
      ((a.refresh now device force snapshot).run.run store s).1 ∧
    ((a.scan now device force).run.run store s).2.1 =
      ((a.refresh now device force snapshot).run.run store s).2.1

/-! ## What the status tells -/

theorem run_freshness_error (hstore : store.KeepsOnReading) {name : String} {cause : StoreError}
    (hin : latestIn store name s = .error cause) :
    (freshness name).run.run store s = (.error (.store cause), s, []) :=
  run_latest_error hstore _ hin

def reportIn (store : Store σ) (name : String) (s : σ) : Except StoreError (Option StoredReport) := do
  match (← latestIn store name s).2 with
  | none => return none
  | some report => (store (.loadReport name report.2) s).1.map some

theorem reportIn_of_some {name : String} {report : Moment × String}
    (hin : latestIn store name s = .ok (snapshot, some report)) :
    reportIn store name s = (store (.loadReport name report.2) s).1.map some := by
  rw [reportIn, hin]
  rfl

theorem run_latestReport_eq (hstore : store.KeepsOnReading) (name : String) (s : σ) :
    (latestReport name).run.run store s = ((reportIn store name s).mapError .store, s, []) := by
  cases hin : latestIn store name s with
  | error cause =>
    rw [reportIn, hin]
    exact run_latest_error hstore _ hin
  | ok found =>
    obtain ⟨snapshot, report⟩ := found
    apply (run_latest_ok hstore _ hin).trans
    cases report with
    | none =>
      rw [reportIn, hin]
      rfl
    | some report =>
      rw [reportIn_of_some hin]
      have hread := Scan.run_ask_pure store s (.loadReport name report.2) some
      rw [hstore.loadReport] at hread
      exact congrArg (Program.counting []) hread

/-- Asking for the freshness and for the newest report of a device tells what a scan without force
comes to, and changes nothing. -/
structure StatusTells (store : Store σ) (a : Auditor) (now : Moment) (device : Device) (s : σ) :
    Prop where
  noConfig : ((a.scan now device false).run.run store s).1 = .ok .noConfig ↔
    ((freshness device.name).run.run store s).1 = .ok .noConfig
  upToDate : ∀ r, ((a.scan now device false).run.run store s).1 = .ok (.upToDate r) ↔
    ((freshness device.name).run.run store s).1 = .ok .upToDate ∧
      ((latestReport device.name).run.run store s).1 = .ok (some r)
  unreadable : ∀ cause, ((freshness device.name).run.run store s).1 = .ok .upToDate →
    ((latestReport device.name).run.run store s).1 = .error cause →
    (∃ e, cause = .store e) ∧ ((a.scan now device false).run.run store s).1 = .error cause
  goesOn : GoesOn store a now device false s ↔
    ((freshness device.name).run.run store s).1 = .ok .stale
  unlisted : ∀ cause, ((freshness device.name).run.run store s).1 = .error cause →
    (∃ e, cause = .store e) ∧ ((a.scan now device false).run.run store s).1 = .error cause
  freshness_state : ((freshness device.name).run.run store s).2.1 = s
  latestReport_state : ((latestReport device.name).run.run store s).2.1 = s
  scan_state : ((a.scan now device false).run.run store s).1 = .ok .noConfig ∨
    (∃ r, ((a.scan now device false).run.run store s).1 = .ok (.upToDate r)) →
    ((a.scan now device false).run.run store s).2.1 = s

theorem refreshed_of_refresh (hstore : store.KeepsOnReading) {snapshot : Moment × String}
    {outcome : Outcome} (h : ((a.refresh now device force snapshot).run.run store s).1 = .ok outcome) :
    ∃ r n, outcome = .refreshed r n := by
  have hrefresh := refresh_refreshing hstore a now device force snapshot s
  generalize (a.refresh now device force snapshot).run.run store s = course at hrefresh h
  cases hrefresh with
  | unloaded _ => cases h
  | uncompiled _ _ => cases h
  | undiscarded _ _ _ => cases h
  | unsaved _ _ _ _ => cases h
  | saved _ _ _ _ => exact ⟨_, _, (Except.ok.inj h).symm⟩

theorem goesOn_of_due (a : Auditor) (now : Moment) (hstore : store.KeepsOnReading)
    {snapshot : Moment × String}
    (hin : latestIn store device.name s = .ok (some snapshot, report))
    (hdue : IsDue force snapshot report) : GoesOn store a now device force s := by
  have hdecide := decide_due a now device hdue
  refine ⟨snapshot, report, hin, by rw [requests_scan hstore hin, hdecide], ?_⟩
  rcases hrun : (a.refresh now device force snapshot).run.run store s with
    ⟨cause | outcome, s', counted⟩
  · rw [run_scan_error hstore hin (hdecide ▸ hrun)]
    exact ⟨rfl, rfl⟩
  · rw [run_scan_ok hstore hin (hdecide ▸ hrun)]
    exact ⟨rfl, rfl⟩

/-- A report that covers the snapshot is read, which no refresh begins with. -/
theorem not_goesOn_of_le (a : Auditor) (now : Moment) (hstore : store.KeepsOnReading)
    {snapshot report : Moment × String}
    (hin : latestIn store device.name s = .ok (some snapshot, some report))
    (hle : snapshot.1 ≤ report.1) : ¬ GoesOn store a now device false s := by
  rintro ⟨snapshot', report', hin', hrequests, -, -⟩
  obtain ⟨rest, hrest⟩ := requests_refresh store a now device false snapshot' s
  obtain ⟨rest', hread⟩ := Scan.requests_ask_bind store s
    (.loadReport device.name report.2) fun r => (return .upToDate r : Scan Outcome)
  rw [requests_scan hstore hin, decide_upToDate hle, hread, hrest] at hrequests
  cases List.append_cancel_left hrequests

theorem statusTells_unlisted (hstore : store.KeepsOnReading) {cause : StoreError}
    (hin : latestIn store device.name s = .error cause) : StatusTells store a now device s := by
  constructor
  all_goals simp [run_scan_unlisted hstore hin, run_freshness_error hstore hin, run_latestReport_eq hstore]
  rintro ⟨snapshot, report, hin', -⟩
  rw [hin] at hin'
  cases hin'

theorem statusTells_noConfig (hstore : store.KeepsOnReading)
    (hin : latestIn store device.name s = .ok (none, report)) :
    StatusTells store a now device s := by
  have hscan : (a.scan now device false).run.run store s =
      (.ok .noConfig, s, scanCount .noConfig) := run_scan_ok hstore hin rfl
  have hfreshness : (freshness device.name).run.run store s = (.ok .noConfig, s, []) :=
    run_freshness hstore hin
  constructor
  all_goals simp [hscan, hfreshness, run_latestReport_eq hstore]
  rintro ⟨snapshot', report', hin', -⟩
  rw [hin] at hin'
  cases hin'

theorem statusTells_current (hstore : store.KeepsOnReading) {snapshot report : Moment × String}
    (hin : latestIn store device.name s = .ok (some snapshot, some report))
    (hle : snapshot.1 ≤ report.1) : StatusTells store a now device s := by
  have hfreshness : (freshness device.name).run.run store s = (.ok .upToDate, s, []) := by
    rw [run_freshness hstore hin, Option.map_some, Option.map_some,
      Freshness.evaluate_eq_upToDate.mpr ⟨report.1, rfl, hle⟩]
  have hreport := run_latestReport_eq hstore device.name s
  have hdecide := run_decide_upToDate hstore a now device s hle
  have hgoes := not_goesOn_of_le a now hstore hin hle
  rw [reportIn_of_some hin] at hreport
  cases hload : (store (.loadReport device.name report.2) s).1 with
  | error cause =>
    rw [hload] at hdecide hreport
    have hscan := run_scan_error hstore hin hdecide
    constructor
    all_goals simp [hscan, hfreshness, hreport, hgoes, Except.map, Except.mapError]
  | ok r =>
    rw [hload] at hdecide hreport
    have hscan := run_scan_ok hstore hin hdecide
    constructor
    all_goals simp [hscan, hfreshness, hreport, hgoes, Except.map, Except.mapError]
    intro r'
    constructor
    · rintro ⟨⟩
      rfl
    · rintro ⟨⟩
      rfl

theorem statusTells_due (hstore : store.KeepsOnReading) {snapshot : Moment × String}
    (hin : latestIn store device.name s = .ok (some snapshot, report))
    (hdue : IsDue false snapshot report) : StatusTells store a now device s := by
  have hfreshness : (freshness device.name).run.run store s = (.ok .stale, s, []) := by
    rw [run_freshness hstore hin, Option.map_some, hdue.evaluate]
  have hgoes := goesOn_of_due a now hstore hin hdue
  have hrefreshed : ∀ outcome, ((a.scan now device false).run.run store s).1 = .ok outcome →
      ∃ r n, outcome = .refreshed r n := by
    obtain ⟨snapshot', _, -, -, hresult, -⟩ := hgoes
    rw [hresult]
    exact fun outcome => refreshed_of_refresh hstore
  have hnoConfig : ((a.scan now device false).run.run store s).1 ≠ .ok .noConfig := by
    intro h
    obtain ⟨_, _, ⟨⟩⟩ := hrefreshed _ h
  have hupToDate : ∀ r, ((a.scan now device false).run.run store s).1 ≠ .ok (.upToDate r) := by
    intro r h
    obtain ⟨_, _, ⟨⟩⟩ := hrefreshed _ h
  constructor
  all_goals simp [hfreshness, hgoes, run_latestReport_eq hstore, hnoConfig, hupToDate]

theorem statusTells (hstore : store.KeepsOnReading) (a : Auditor) (now : Moment) (device : Device)
    (s : σ) : StatusTells store a now device s := by
  rcases hin : latestIn store device.name s with cause | ⟨snapshot | snapshot, report⟩
  · exact statusTells_unlisted hstore hin
  · exact statusTells_noConfig hstore hin
  · rcases isDue_or false snapshot report with hdue | ⟨-, r, rfl, hle⟩
    · exact statusTells_due hstore hin hdue
    · exact statusTells_current hstore hin hle

end Auditor

/-- For every store in memory and every file tree, the status of a device tells what a scan of it
comes to; a status or a check of the templates leaves the files as they are. -/
theorem status_tells_scan (a : Auditor) (now : Moment) (device : Device) :
    (∀ m : Memory, a.StatusTells Memory.store now device m) ∧
    (∀ (d : Directories) (t : FileTree), a.StatusTells d.store now device t) ∧
    ∀ (setting : CommandLine.Setting) (json : Bool) (reason : String) (t : FileTree),
      (∀ names, (setting.perform json reason now t (.status names)).2 = t) ∧
      (setting.perform json reason now t .checkTemplates).2 = t := by
  refine ⟨Auditor.statusTells Memory.keepsOnReading a now device,
    fun d => Auditor.statusTells (Directories.keepsOnReading d) a now device, ?_⟩
  intro setting json reason t
  refine ⟨fun names => ?_, rfl⟩
  simp only [CommandLine.Setting.perform]
  split <;> rfl

end Conformance
