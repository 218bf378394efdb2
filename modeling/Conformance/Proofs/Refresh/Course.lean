import Conformance.Proofs.Refresh.Program
import Conformance.Proofs.Time.Order

/-!
# The courses of a scan

All the ways that a scan can go, with what the store said on the way, and what it leaves of the
store and of the counters in each.
-/
namespace Conformance

/-- Asking a store what it holds does not change it. -/
structure Store.KeepsOnReading {σ : Type} (store : Store σ) : Prop where
  snapshotIds : ∀ device s, (store (.snapshotIds device) s).2 = s
  loadSnapshot : ∀ device id s, (store (.loadSnapshot device id) s).2 = s
  reportIds : ∀ device s, (store (.reportIds device) s).2 = s
  loadReport : ∀ device id s, (store (.loadReport device id) s).2 = s

/-- What a store has for a device after a report was kept, told from what it had before a refresh
that began with the snapshot. -/
structure Store.Renewed {σ : Type} (store : Store σ) (device : String) (force : Bool)
    (snapshot : String) (r : StoredReport) (s s' : σ) : Prop where
  reports : ∀ old : List String, (store (.reportIds device) s).1 = .ok old →
    ∃ new : List String, (store (.reportIds device) s').1 = .ok new ∧ r.id ∈ new ∧
      ∀ id ∈ new, id = r.id ∨ force = false ∧ id ∈ old
  snapshots : ∀ old : List String, (store (.snapshotIds device) s).1 = .ok old → snapshot ∈ old →
    ∃ new : List String, (store (.snapshotIds device) s').1 = .ok new ∧ (snapshot ∈ new ∨ r.id ∈ new) ∧
      ∀ id ∈ new, id = r.id ∨ id ∈ old
  loaded : (store (.loadReport device r.id) s').1 = .ok r

namespace Auditor

variable {σ : Type} {store : Store σ} {s : σ} {a : Auditor} {now : Moment} {device : Device}
  {force : Bool}

/-! ## Refreshing -/

def discard (store : Store σ) (device : String) (force : Bool) (s : σ) :
    Except StoreError Nat × σ :=
  if force then store (.discardReports device) s else (.ok 0, s)

def reportOn (now : Moment) (device : Device) (snapshot : Moment × String)
    (found : Augmentation × DeviationReport) : StoredReport :=
  ⟨device.name, Stamp.format (now.latest snapshot.1), snapshot.2, found.1, found.2⟩

def lineCounts (report : DeviationReport) : List Count :=
  [⟨.missingLines, report.missing.length⟩, ⟨.extraLines, report.extra.length⟩]

inductive Refreshing (store : Store σ) (a : Auditor) (now : Moment) (device : Device)
    (force : Bool) (snapshot : Moment × String) (s : σ) :
    Except ScanError Outcome × σ × List Count → Prop
  | unloaded {cause} :
    (store (.loadSnapshot device.name snapshot.2) s).1 = .error cause →
    Refreshing store a now device force snapshot s (.error (.store cause), s, [])
  | uncompiled {lines cause} :
    (store (.loadSnapshot device.name snapshot.2) s).1 = .ok lines →
    a.audit device lines = .error cause →
    Refreshing store a now device force snapshot s
      (.error (.compile device.name cause), s, [⟨.compileFailures, 1⟩])
  | undiscarded {lines found cause s'} :
    (store (.loadSnapshot device.name snapshot.2) s).1 = .ok lines →
    a.audit device lines = .ok found →
    discard store device.name force s = (.error cause, s') →
    Refreshing store a now device force snapshot s
      (.error (.store cause), s', lineCounts found.2)
  | unsaved {lines found n cause s' s''} :
    (store (.loadSnapshot device.name snapshot.2) s).1 = .ok lines →
    a.audit device lines = .ok found →
    discard store device.name force s = (.ok n, s') →
    store (.saveReport (reportOn now device snapshot found)) s' = (.error cause, s'') →
    Refreshing store a now device force snapshot s
      (.error (.store cause), s'', lineCounts found.2)
  | saved {lines found n id s' s''} :
    (store (.loadSnapshot device.name snapshot.2) s).1 = .ok lines →
    a.audit device lines = .ok found →
    discard store device.name force s = (.ok n, s') →
    store (.saveReport (reportOn now device snapshot found)) s' = (.ok id, s'') →
    Refreshing store a now device force snapshot s
      (.ok (.refreshed (reportOn now device snapshot found) n), s'', lineCounts found.2)

def save (now : Moment) (device : Device) (snapshot : Moment × String)
    (found : Augmentation × DeviationReport) (discarded : Nat) : Scan Outcome := do
  let _ ← Scan.ask (.saveReport (reportOn now device snapshot found))
  return .refreshed (reportOn now device snapshot found) discarded

/-- Keeps what was found about a snapshot: counts its lines, discards the reports before it if the
scan is forced, and saves the new one. -/
def keep (now : Moment) (device : Device) (force : Bool) (snapshot : Moment × String)
    (found : Augmentation × DeviationReport) : Scan Outcome := do
  Scan.count .missingLines found.2.missing.length
  Scan.count .extraLines found.2.extra.length
  let discarded ← if force then Scan.ask (.discardReports device.name) else pure (0 : Nat)
  save now device snapshot found discarded

theorem run_refresh_error (hstore : store.KeepsOnReading) {snapshot : Moment × String}
    {lines : List String} {cause : CompileError}
    (hload : (store (.loadSnapshot device.name snapshot.2) s).1 = .ok lines)
    (haudit : a.audit device lines = .error cause) :
    (a.refresh now device force snapshot).run.run store s =
      (.error (.compile device.name cause), s, [⟨.compileFailures, 1⟩]) := by
  unfold refresh
  rw [Scan.run_ask_ok _ hload, hstore.loadSnapshot, haudit]
  rfl

theorem run_refresh_ok (hstore : store.KeepsOnReading) {snapshot : Moment × String}
    {lines : List String} {found : Augmentation × DeviationReport}
    (hload : (store (.loadSnapshot device.name snapshot.2) s).1 = .ok lines)
    (haudit : a.audit device lines = .ok found) :
    (a.refresh now device force snapshot).run.run store s =
      (keep now device force snapshot found).run.run store s := by
  unfold refresh
  rw [Scan.run_ask_ok _ hload, hstore.loadSnapshot, haudit]
  rfl

theorem refreshing_save {snapshot : Moment × String} {lines : List String}
    {found : Augmentation × DeviationReport} {n : Nat} {s' : σ}
    (hload : (store (.loadSnapshot device.name snapshot.2) s).1 = .ok lines)
    (haudit : a.audit device lines = .ok found)
    (hdiscard : discard store device.name force s = (.ok n, s')) :
    Refreshing store a now device force snapshot s
      (Program.counting (lineCounts found.2)
        ((save now device snapshot found n).run.run store s')) := by
  unfold save
  cases hsave : (store (.saveReport (reportOn now device snapshot found)) s').1 with
  | error cause =>
    rw [Scan.run_ask_error _ hsave]
    exact .unsaved hload haudit hdiscard (Prod.ext hsave rfl)
  | ok id =>
    rw [Scan.run_ask_ok _ hsave]
    exact .saved hload haudit hdiscard (Prod.ext hsave rfl)

theorem refresh_refreshing (hstore : store.KeepsOnReading) (a : Auditor) (now : Moment)
    (device : Device) (force : Bool) (snapshot : Moment × String) (s : σ) :
    Refreshing store a now device force snapshot s
      ((a.refresh now device force snapshot).run.run store s) := by
  cases hload : (store (.loadSnapshot device.name snapshot.2) s).1 with
  | error cause =>
    unfold refresh
    rw [Scan.run_ask_error _ hload, hstore.loadSnapshot]
    exact .unloaded hload
  | ok lines =>
    cases haudit : a.audit device lines with
    | error cause =>
      rw [run_refresh_error hstore hload haudit]
      exact .uncompiled hload haudit
    | ok found =>
      rw [run_refresh_ok hstore hload haudit, keep, Scan.run_count, Scan.run_count]
      cases force with
      | false => exact refreshing_save hload haudit rfl
      | true =>
        cases hdiscard : (store (.discardReports device.name) s).1 with
        | error cause =>
          rw [if_pos rfl, Scan.run_ask_error _ hdiscard]
          exact .undiscarded hload haudit (Prod.ext hdiscard rfl)
        | ok n =>
          rw [if_pos rfl, Scan.run_ask_ok _ hdiscard]
          exact refreshing_save hload haudit (Prod.ext hdiscard rfl)

/-! ## Scanning -/

/-- The newest snapshot and the newest report, as a store has them. -/
def latestIn (store : Store σ) (device : String) (s : σ) :
    Except StoreError (Option (Moment × String) × Option (Moment × String)) :=
  match (store (.snapshotIds device) s).1, (store (.reportIds device) s).1 with
  | .error cause, _ => .error cause
  | .ok _, .error cause => .error cause
  | .ok snapshots, .ok reports => .ok (Stamp.latest? snapshots, Stamp.latest? reports)

theorem latestIn_eq_ok {device : String} {snapshot report : Option (Moment × String)}
    (h : latestIn store device s = .ok (snapshot, report)) :
    ∃ snapshots reports : List String, (store (.snapshotIds device) s).1 = .ok snapshots ∧
      (store (.reportIds device) s).1 = .ok reports ∧ snapshot = Stamp.latest? snapshots ∧
      report = Stamp.latest? reports := by
  rw [latestIn] at h
  split at h
  · cases h
  · cases h
  · next snapshots reports hsnapshots hreports =>
    obtain ⟨rfl, rfl⟩ := Prod.mk.inj (Except.ok.inj h)
    exact ⟨snapshots, reports, hsnapshots, hreports, rfl, rfl⟩

theorem run_latest (hstore : store.KeepsOnReading) (device : String) :
    (latest device).run.run store s =
      ((latestIn store device s).mapError ScanError.store, s, []) := by
  have hs := hstore.snapshotIds device s
  have hs' := hstore.reportIds device s
  unfold latest latestIn
  cases hsnapshots : (store (.snapshotIds device) s).1 with
  | error cause =>
    rw [Scan.run_ask_error _ hsnapshots, hs]
    rfl
  | ok snapshots =>
    rw [Scan.run_ask_ok _ hsnapshots, hs]
    cases hreports : (store (.reportIds device) s).1 with
    | error cause =>
      rw [Scan.run_ask_error _ hreports, hs']
      rfl
    | ok reports =>
      rw [Scan.run_ask_ok _ hreports, hs']
      rfl

theorem run_latest_ok {α : Type} (hstore : store.KeepsOnReading) {name : String}
    {newest : Option (Moment × String) × Option (Moment × String)}
    (f : Option (Moment × String) × Option (Moment × String) → Scan α)
    (hin : latestIn store name s = .ok newest) :
    (latest name >>= f).run.run store s = (f newest).run.run store s := by
  have hlatest := run_latest (s := s) hstore name
  rw [hin] at hlatest
  exact Scan.run_bind_ok f hlatest

theorem run_latest_error {α : Type} (hstore : store.KeepsOnReading) {name : String}
    {cause : StoreError} (f : Option (Moment × String) × Option (Moment × String) → Scan α)
    (hin : latestIn store name s = .error cause) :
    (latest name >>= f).run.run store s = (.error (.store cause), s, []) := by
  have hlatest := run_latest (s := s) hstore name
  rw [hin] at hlatest
  exact Scan.run_bind_error f hlatest

def scanCount (outcome : Outcome) : List Count :=
  [⟨.scans outcome.name outcome.status?, 1⟩]

/-- A refresh is due: it is asked for, or no report is as new as the snapshot. -/
def IsDue (force : Bool) (snapshot : Moment × String) (report : Option (Moment × String)) : Prop :=
  force = true ∨ ∀ r, report = some r → r.1 < snapshot.1

theorem isDue_or (force : Bool) (snapshot : Moment × String) (report : Option (Moment × String)) :
    IsDue force snapshot report ∨ force = false ∧ ∃ r, report = some r ∧ snapshot.1 ≤ r.1 := by
  cases force with
  | true => exact .inl (.inl rfl)
  | false =>
    cases report with
    | none => exact .inl (.inr fun r hr => by cases hr)
    | some r =>
      rcases lt_or_ge r.1 snapshot.1 with hlt | hge
      · exact .inl (.inr fun r' hr' => by cases hr'; exact hlt)
      · exact .inr ⟨rfl, r, rfl, hge⟩

theorem IsDue.evaluate {snapshot : Moment × String} {report : Option (Moment × String)}
    (h : IsDue force snapshot report) :
    Freshness.evaluate (some snapshot.1) (report.map Prod.fst) force = .stale := by
  rcases h with rfl | h
  · rfl
  · cases force with
    | true => rfl
    | false =>
      apply Freshness.evaluate_eq_stale.mpr
      intro t ht
      obtain ⟨r, hr, rfl⟩ := Option.map_eq_some_iff.mp ht
      exact h r hr

theorem decide_due (a : Auditor) (now : Moment) (device : Device) {snapshot : Moment × String}
    {report : Option (Moment × String)} (h : IsDue force snapshot report) :
    a.decide now device force (some snapshot) report = a.refresh now device force snapshot := by
  simp only [decide, h.evaluate]

theorem decide_upToDate {snapshot report : Moment × String} (h : snapshot.1 ≤ report.1) :
    a.decide now device false (some snapshot) (some report) =
      (do return .upToDate (← Scan.ask (.loadReport device.name report.2))) := by
  have hcurrent : Freshness.evaluate (some snapshot.1) (some report.1) false = .upToDate :=
    Freshness.evaluate_eq_upToDate.mpr ⟨report.1, rfl, h⟩
  simp only [decide, Option.map_some, hcurrent]

inductive Scanning (store : Store σ) (a : Auditor) (now : Moment) (device : Device)
    (force : Bool) (s : σ) : Except ScanError Outcome × σ × List Count → Prop
  | unlisted {cause} :
    latestIn store device.name s = .error cause →
    Scanning store a now device force s (.error (.store cause), s, [])
  | noConfig {report} :
    latestIn store device.name s = .ok (none, report) →
    Scanning store a now device force s (.ok .noConfig, s, scanCount .noConfig)
  | unreadable {snapshot report cause} :
    latestIn store device.name s = .ok (some snapshot, some report) →
    force = false → snapshot.1 ≤ report.1 →
    (store (.loadReport device.name report.2) s).1 = .error cause →
    Scanning store a now device force s (.error (.store cause), s, [])
  | upToDate {snapshot report r} :
    latestIn store device.name s = .ok (some snapshot, some report) →
    force = false → snapshot.1 ≤ report.1 →
    (store (.loadReport device.name report.2) s).1 = .ok r →
    Scanning store a now device force s (.ok (.upToDate r), s, scanCount (.upToDate r))
  | failed {snapshot report cause s' counted} :
    latestIn store device.name s = .ok (some snapshot, report) →
    IsDue force snapshot report →
    Refreshing store a now device force snapshot s (.error cause, s', counted) →
    Scanning store a now device force s (.error cause, s', counted)
  | refreshed {snapshot report outcome s' counted} :
    latestIn store device.name s = .ok (some snapshot, report) →
    IsDue force snapshot report →
    Refreshing store a now device force snapshot s (.ok outcome, s', counted) →
    Scanning store a now device force s (.ok outcome, s', counted ++ scanCount outcome)

theorem run_scan (hstore : store.KeepsOnReading) {snapshot report : Option (Moment × String)}
    (hin : latestIn store device.name s = .ok (snapshot, report)) :
    (a.scan now device force).run.run store s =
      (a.decide now device force snapshot report >>= fun outcome => do
        Scan.count (.scans outcome.name outcome.status?) 1
        return outcome).run.run store s :=
  run_latest_ok hstore _ hin

theorem run_scan_unlisted (hstore : store.KeepsOnReading) {cause : StoreError}
    (hin : latestIn store device.name s = .error cause) :
    (a.scan now device force).run.run store s = (.error (.store cause), s, []) :=
  run_latest_error hstore _ hin

theorem run_scan_ok (hstore : store.KeepsOnReading) {snapshot report : Option (Moment × String)}
    {outcome : Outcome} {s' : σ} {counted : List Count}
    (hin : latestIn store device.name s = .ok (snapshot, report))
    (hdecide : (a.decide now device force snapshot report).run.run store s =
      (.ok outcome, s', counted)) :
    (a.scan now device force).run.run store s = (.ok outcome, s', counted ++ scanCount outcome) :=
  (run_scan hstore hin).trans (Scan.run_bind_ok _ hdecide)

theorem run_scan_error (hstore : store.KeepsOnReading) {snapshot report : Option (Moment × String)}
    {cause : ScanError} {s' : σ} {counted : List Count}
    (hin : latestIn store device.name s = .ok (snapshot, report))
    (hdecide : (a.decide now device force snapshot report).run.run store s =
      (.error cause, s', counted)) :
    (a.scan now device force).run.run store s = (.error cause, s', counted) :=
  (run_scan hstore hin).trans (Scan.run_bind_error _ hdecide)

theorem run_decide_upToDate (hstore : store.KeepsOnReading) (a : Auditor) (now : Moment)
    (device : Device) (s : σ) {snapshot report : Moment × String} (h : snapshot.1 ≤ report.1) :
    (a.decide now device false (some snapshot) (some report)).run.run store s =
      (match (store (.loadReport device.name report.2) s).1 with
        | .ok r => .ok (.upToDate r)
        | .error cause => .error (.store cause), s, []) := by
  have hs := hstore.loadReport device.name report.2 s
  rw [decide_upToDate h]
  cases hload : (store (.loadReport device.name report.2) s).1 with
  | error cause => exact (Scan.run_ask_error _ hload).trans (by rw [hs])
  | ok r => exact (Scan.run_ask_ok _ hload).trans (by rw [hs]; rfl)

theorem run_scan_upToDate (hstore : store.KeepsOnReading) {snapshot report : Moment × String}
    {r : StoredReport} (hin : latestIn store device.name s = .ok (some snapshot, some report))
    (hle : snapshot.1 ≤ report.1)
    (hload : (store (.loadReport device.name report.2) s).1 = .ok r) :
    (a.scan now device false).run.run store s =
      (.ok (.upToDate r), s, scanCount (.upToDate r)) := by
  have hdecide := run_decide_upToDate hstore a now device s hle
  rw [hload] at hdecide
  exact run_scan_ok hstore hin hdecide

theorem run_freshness (hstore : store.KeepsOnReading) {name : String}
    {snapshot report : Option (Moment × String)}
    (hin : latestIn store name s = .ok (snapshot, report)) :
    (freshness name).run.run store s =
      (.ok (.evaluate (snapshot.map Prod.fst) (report.map Prod.fst) false), s, []) :=
  run_latest_ok hstore _ hin

theorem run_latestReport (hstore : store.KeepsOnReading) {name : String}
    {snapshot : Option (Moment × String)} {report : Moment × String} {r : StoredReport}
    (hin : latestIn store name s = .ok (snapshot, some report))
    (hload : (store (.loadReport name report.2) s).1 = .ok r) :
    (latestReport name).run.run store s = (.ok (some r), s, []) := by
  have hs := hstore.loadReport name report.2 s
  exact (run_latest_ok hstore _ hin).trans ((Scan.run_ask_ok _ hload).trans (by rw [hs]; rfl))

theorem scan_scanning (hstore : store.KeepsOnReading) (a : Auditor) (now : Moment) (device : Device)
    (force : Bool) (s : σ) :
    Scanning store a now device force s ((a.scan now device force).run.run store s) := by
  cases hin : latestIn store device.name s with
  | error cause =>
    rw [run_scan_unlisted hstore hin]
    exact .unlisted hin
  | ok found =>
    obtain ⟨snapshot, report⟩ := found
    cases snapshot with
    | none =>
      have hnone : (a.decide now device force none report).run.run store s =
          (.ok .noConfig, s, []) := rfl
      rw [run_scan_ok hstore hin hnone]
      exact .noConfig hin
    | some snapshot =>
      rcases isDue_or force snapshot report with hdue | ⟨rfl, r, rfl, hle⟩
      · have hrefresh := refresh_refreshing hstore a now device force snapshot s
        have hdecide := decide_due a now device hdue
        rcases hrun : (a.refresh now device force snapshot).run.run store s with
          ⟨cause | outcome, s', counted⟩
        · rw [hrun] at hrefresh
          rw [run_scan_error hstore hin (hdecide ▸ hrun)]
          exact .failed hin hdue hrefresh
        · rw [hrun] at hrefresh
          rw [run_scan_ok hstore hin (hdecide ▸ hrun)]
          exact .refreshed hin hdue hrefresh
      · have hdecide := run_decide_upToDate hstore a now device s hle
        cases hload : (store (.loadReport device.name r.2) s).1 with
        | error cause =>
          rw [hload] at hdecide
          rw [run_scan_error hstore hin hdecide]
          exact .unreadable hin rfl hle hload
        | ok kept =>
          rw [hload] at hdecide
          rw [run_scan_ok hstore hin hdecide]
          exact .upToDate hin rfl hle hload

/-- A scan that makes a report keeps it last of all. -/
theorem saved_of_scan (hstore : store.KeepsOnReading) {r : StoredReport} {n : Nat}
    (h : ((a.scan now device force).run.run store s).1 = .ok (.refreshed r n)) :
    ∃ snapshot report found s' id,
      latestIn store device.name s = .ok (some snapshot, report) ∧
      IsDue force snapshot report ∧ r = reportOn now device snapshot found ∧
      discard store device.name force s = (.ok n, s') ∧
      store (.saveReport r) s' = (.ok id, ((a.scan now device force).run.run store s).2.1) := by
  have hscan := scan_scanning hstore a now device force s
  generalize (a.scan now device force).run.run store s = outcome at hscan h ⊢
  cases hscan with
  | unlisted _ => cases h
  | noConfig _ => cases h
  | unreadable _ _ _ _ => cases h
  | upToDate _ _ _ _ => cases h
  | failed _ _ _ => cases h
  | refreshed hin hdue hrefresh =>
    cases hrefresh with
    | saved _ _ hdiscard hsave =>
      obtain ⟨rfl, rfl⟩ := Outcome.refreshed.inj (Except.ok.inj h)
      exact ⟨_, _, _, _, _, hin, hdue, rfl, hdiscard, hsave⟩

end Auditor
end Conformance
