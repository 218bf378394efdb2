import Conformance.Proofs.Catalog
import Conformance.Proofs.Refresh.Course
import Conformance.Store.Memory

/-!
# What is in memory

Every operation of a store in memory is described by what it leaves for each device.
-/
namespace Conformance.Memory

variable {m : Memory} {device other : String}

theorem keepsOnReading : Store.KeepsOnReading store where
  snapshotIds _ _ := rfl
  loadSnapshot _ _ _ := rfl
  reportIds _ _ := rfl
  loadReport _ _ _ := rfl

@[simp] theorem of_withReports_self (m : Memory) (device : String) (reports : Catalog StoredReport) :
    (m.withReports device reports).of device = { m.of device with reports } := by
  simp [withReports, of]

theorem of_withReports_of_ne (h : other ≠ device) (reports : Catalog StoredReport) :
    (m.withReports device reports).of other = m.of other := by
  simp [withReports, of, Catalog.get?_insert_of_ne h]

@[simp] theorem snapshots_withReports (m : Memory) (device : String)
    (reports : Catalog StoredReport) (other : String) :
    ((m.withReports device reports).of other).snapshots = (m.of other).snapshots := by
  by_cases h : other = device
  · rw [h, of_withReports_self]
  · rw [of_withReports_of_ne h]

@[simp] theorem of_addSnapshot_self (m : Memory) (device id : String) (lines : List String) :
    (m.addSnapshot device id lines).of device =
      { m.of device with snapshots := (m.of device).snapshots.insert id lines } := by
  simp [addSnapshot, of]

theorem of_addSnapshot_of_ne (h : other ≠ device) (id : String) (lines : List String) :
    (m.addSnapshot device id lines).of other = m.of other := by
  simp [addSnapshot, of, Catalog.get?_insert_of_ne h]

theorem get?_withReports (m : Memory) (device : String) (reports : Catalog StoredReport)
    (device' id : String) : ((m.withReports device reports).of device').reports.get? id =
      if device' = device then reports.get? id else (m.of device').reports.get? id := by
  split
  · next heq => rw [heq, of_withReports_self]
  · next hne => rw [of_withReports_of_ne hne]

theorem get?_addSnapshot (m : Memory) (device id : String) (contents : List String)
    (device' id' : String) : ((m.addSnapshot device id contents).of device').snapshots.get? id' =
      if device' = device ∧ id' = id then some contents
      else (m.of device').snapshots.get? id' := by
  by_cases hdevice : device' = device
  · subst hdevice
    rw [of_addSnapshot_self, Catalog.get?_insert]
    simp
  · rw [of_addSnapshot_of_ne hdevice, if_neg fun h => hdevice h.1]

@[simp] theorem reports_addSnapshot (m : Memory) (device id : String) (contents : List String)
    (other : String) :
    ((m.addSnapshot device id contents).of other).reports = (m.of other).reports := by
  by_cases h : other = device
  · rw [h, of_addSnapshot_self]
  · rw [of_addSnapshot_of_ne h]

theorem keys_subset_addSnapshot (m : Memory) (device id : String) (contents : List String)
    (other : String) :
    (m.of other).snapshots.keys ⊆ ((m.addSnapshot device id contents).of other).snapshots.keys := by
  intro id' hid
  rw [Catalog.mem_keys] at hid ⊢
  rw [get?_addSnapshot]
  split
  · exact ⟨contents, rfl⟩
  · exact hid

theorem snapshots_store (request : Request) (m : Memory) (other : String) :
    ((store request m).2.of other).snapshots = (m.of other).snapshots := by
  cases request with
  | saveReport r => exact snapshots_withReports ..
  | discardReports device =>
    rw [store]
    split
    · exact snapshots_withReports ..
    · rfl
  | _ => rfl

/-- A report that is there after a request was there before it, or was saved by it. -/
theorem reports_store {request : Request} {id : String} {r : StoredReport}
    (h : ((store request m).2.of device).reports.get? id = some r) :
    (m.of device).reports.get? id = some r ∨
      request = .saveReport r ∧ r.device = device ∧ r.id = id := by
  cases request with
  | saveReport r' =>
    simp only [store, get?_withReports] at h
    split at h
    · next hd =>
      rw [Catalog.get?_insert] at h
      split at h
      · next hid =>
        cases h
        exact .inr ⟨rfl, hd.symm, hid.symm⟩
      · rw [hd]
        exact .inl h
    · exact .inl h
  | discardReports device' =>
    rw [store] at h
    split at h
    · rw [get?_withReports] at h
      split at h
      · cases h
      · exact .inl h
    · exact .inl h
  | _ => exact .inl h

theorem reports_of_not_contains (h : m.contains device = false) : (m.of device).reports = .empty := by
  have hnone : m.get? device = none := by
    simpa [Catalog.contains] using h
  simp [of, hnone]

theorem latestIn_store (m : Memory) (device : String) :
    Auditor.latestIn store device m = .ok (Stamp.latest? (m.of device).snapshots.keys,
      Stamp.latest? (m.of device).reports.keys) := rfl

theorem loadReport_eq {id : String} {r : StoredReport}
    (h : (m.of device).reports.get? id = some r) : (store (.loadReport device id) m).1 = .ok r := by
  show found device .report id _ = _
  rw [h]
  rfl

def reportsToKeep (m : Memory) (device : String) (force : Bool) : Catalog StoredReport :=
  if force then .empty else (m.of device).reports

/-- Discarding cannot fail, and touches nothing but the reports of the device. -/
theorem discard_eq (m : Memory) (device : String) (force : Bool) :
    ∃ m', Auditor.discard store device force m =
        (.ok (if force then (m.of device).reports.size else 0), m') ∧
      (m'.of device).reports = m.reportsToKeep device force ∧
      (∀ d, (m'.of d).snapshots = (m.of d).snapshots) ∧
      ∀ d, d ≠ device → m'.of d = m.of d := by
  cases force with
  | false => exact ⟨m, rfl, rfl, fun _ => rfl, fun _ _ => rfl⟩
  | true =>
    cases h : m.contains device with
    | true =>
      refine ⟨m.withReports device .empty, ?_, by simp [reportsToKeep], by simp,
        fun d hd => of_withReports_of_ne hd _⟩
      simp only [Auditor.discard, store, h, if_true]
      rfl
    | false =>
      have hempty := reports_of_not_contains h
      refine ⟨m, ?_, by simp [reportsToKeep, hempty], fun _ => rfl, fun _ _ => rfl⟩
      simp only [Auditor.discard, store, h, hempty, if_true, Bool.false_eq_true, if_false]
      rfl

structure Refreshed (m m' : Memory) (device : String) (force : Bool) (r : StoredReport) : Prop where
  reports : (m'.of device).reports = (m.reportsToKeep device force).insert r.id r
  snapshots : ∀ d, (m'.of d).snapshots = (m.of d).snapshots
  others : ∀ d, d ≠ device → m'.of d = m.of d

inductive Scanned (a : Auditor) (now : Moment) (device : Device) (force : Bool) (m : Memory) :
    Except ScanError Outcome × Memory × List Count → Prop
  | noConfig :
    Stamp.latest? (m.of device.name).snapshots.keys = none →
    Scanned a now device force m (.ok .noConfig, m, Auditor.scanCount .noConfig)
  | upToDate {snapshot report r} :
    Stamp.latest? (m.of device.name).snapshots.keys = some snapshot →
    Stamp.latest? (m.of device.name).reports.keys = some report →
    force = false → snapshot.1 ≤ report.1 →
    (m.of device.name).reports.get? report.2 = some r →
    Scanned a now device force m (.ok (.upToDate r), m, Auditor.scanCount (.upToDate r))
  | uncompiled {snapshot lines cause} :
    Stamp.latest? (m.of device.name).snapshots.keys = some snapshot →
    Auditor.IsDue force snapshot (Stamp.latest? (m.of device.name).reports.keys) →
    (m.of device.name).snapshots.get? snapshot.2 = some lines →
    a.audit device lines = .error cause →
    Scanned a now device force m
      (.error (.compile device.name cause), m, [⟨.compileFailures, 1⟩])
  | refreshed {snapshot lines found m'} :
    Stamp.latest? (m.of device.name).snapshots.keys = some snapshot →
    Auditor.IsDue force snapshot (Stamp.latest? (m.of device.name).reports.keys) →
    (m.of device.name).snapshots.get? snapshot.2 = some lines →
    a.audit device lines = .ok found →
    Refreshed m m' device.name force (Auditor.reportOn now device snapshot found) →
    Scanned a now device force m
      (.ok (.refreshed (Auditor.reportOn now device snapshot found)
          (if force then (m.of device.name).reports.size else 0)), m',
        Auditor.lineCounts found.2 ++ Auditor.scanCount (.refreshed
          (Auditor.reportOn now device snapshot found)
          (if force then (m.of device.name).reports.size else 0)))

theorem exists_get?_of_latest? {β : Type} {c : Catalog β} {e : Moment × String}
    (h : Stamp.latest? c.keys = some e) : ∃ value, c.get? e.2 = some value :=
  Catalog.mem_keys.mp (Stamp.latest?_eq_some.mp h).1

theorem loadSnapshot_eq {id : String} {lines : List String}
    (h : (m.of device).snapshots.get? id = some lines) :
    (store (.loadSnapshot device id) m).1 = .ok lines := by
  show found device .snapshot id _ = _
  rw [h]
  rfl

theorem refreshed_of_discard {m' : Memory} {force : Bool} {r : StoredReport}
    (hreports : (m'.of r.device).reports = m.reportsToKeep r.device force)
    (hsnapshots : ∀ d, (m'.of d).snapshots = (m.of d).snapshots)
    (hothers : ∀ d, d ≠ r.device → m'.of d = m.of d) :
    Refreshed m (store (.saveReport r) m').2 r.device force r := by
  have hsave : (store (.saveReport r) m').2 =
      m'.withReports r.device ((m'.of r.device).reports.insert r.id r) := rfl
  rw [hsave, hreports]
  constructor
  · simp
  · intro d
    rw [snapshots_withReports, hsnapshots]
  · intro d hd
    rw [of_withReports_of_ne hd, hothers d hd]

theorem Refreshed.renewed {m' : Memory} {force : Bool} {r : StoredReport} (snapshot : String)
    (h : Refreshed m m' device force r) : Store.Renewed store device force snapshot r m m' where
  reports old hold := by
    obtain rfl : (m.of device).reports.keys = old := Except.ok.inj hold
    refine ⟨(m'.of device).reports.keys, rfl, ?_, ?_⟩
    · rw [h.reports]
      exact Catalog.mem_keys_insert.mpr (.inl rfl)
    · intro id hid
      rw [h.reports, Catalog.mem_keys_insert, reportsToKeep] at hid
      apply hid.imp_right
      intro hid
      cases force with
      | true => cases hid
      | false => exact ⟨rfl, hid⟩
  snapshots old hold hsnapshot := by
    obtain rfl : (m.of device).snapshots.keys = old := Except.ok.inj hold
    rw [← h.snapshots] at hsnapshot ⊢
    exact ⟨(m'.of device).snapshots.keys, rfl, .inl hsnapshot, fun id hid => .inr hid⟩
  loaded := loadReport_eq (by rw [h.reports, Catalog.get?_insert_self])

theorem renewed_of_save {m' m'' : Memory} {force : Bool} {r : StoredReport} {n : Nat} {id : String}
    (snapshot : String) (hdiscard : Auditor.discard store r.device force m = (.ok n, m'))
    (hsave : store (.saveReport r) m' = (.ok id, m'')) :
    Store.Renewed store r.device force snapshot r m m'' := by
  obtain ⟨m', hdiscard', hreports, hsnapshots, hothers⟩ := discard_eq m r.device force
  obtain ⟨-, rfl⟩ := Prod.mk.inj (hdiscard'.symm.trans hdiscard)
  have hkept := refreshed_of_discard hreports hsnapshots hothers
  rw [hsave] at hkept
  exact hkept.renewed snapshot

/-- A refresh in memory fails only where templates do not compile, and then changes nothing. -/
theorem refreshing_cases {a : Auditor} {now : Moment} {d : Device} {force : Bool}
    {snapshot : Moment × String} {outcome : Except ScanError Outcome × Memory × List Count}
    (hlatest : Stamp.latest? (m.of d.name).snapshots.keys = some snapshot)
    (h : Auditor.Refreshing store a now d force snapshot m outcome) :
    ∃ lines, (m.of d.name).snapshots.get? snapshot.2 = some lines ∧
      ((∃ cause, a.audit d lines = .error cause ∧
          outcome = (.error (.compile d.name cause), m, [⟨.compileFailures, 1⟩])) ∨
        ∃ found m', a.audit d lines = .ok found ∧
          Refreshed m m' d.name force (Auditor.reportOn now d snapshot found) ∧
          outcome = (.ok (.refreshed (Auditor.reportOn now d snapshot found)
            (if force then (m.of d.name).reports.size else 0)), m',
              Auditor.lineCounts found.2)) := by
  obtain ⟨lines, hget⟩ := exists_get?_of_latest? hlatest
  have hlines := loadSnapshot_eq hget
  obtain ⟨m', hdiscard, hreports, hsnapshots, hothers⟩ := discard_eq m d.name force
  refine ⟨lines, hget, ?_⟩
  cases h with
  | unloaded hload =>
    rw [hlines] at hload
    cases hload
  | uncompiled hload haudit =>
    obtain rfl := Except.ok.inj (hlines.symm.trans hload)
    exact .inl ⟨_, haudit, rfl⟩
  | undiscarded hload haudit hfail =>
    rw [hdiscard] at hfail
    cases hfail
  | unsaved hload haudit hdone hsave => cases hsave
  | @saved _ found _ _ _ _ hload haudit hdone hsave =>
    obtain rfl := Except.ok.inj (hlines.symm.trans hload)
    rw [hdiscard] at hdone
    cases hdone
    refine .inr ⟨_, _, haudit, ?_, rfl⟩
    have hkept := refreshed_of_discard (r := Auditor.reportOn now d snapshot found) hreports
      hsnapshots hothers
    rw [hsave] at hkept
    exact hkept

theorem scan_scanned (a : Auditor) (now : Moment) (device : Device) (force : Bool) (m : Memory) :
    Scanned a now device force m ((a.scan now device force).run.run store m) := by
  have hscan := Auditor.scan_scanning keepsOnReading a now device force m
  generalize (a.scan now device force).run.run store m = outcome at hscan ⊢
  cases hscan with
  | unlisted hin => cases hin
  | noConfig hin =>
    rw [latestIn_store] at hin
    exact .noConfig (Prod.mk.inj (Except.ok.inj hin)).1
  | unreadable hin hforce hle hload =>
    rw [latestIn_store] at hin
    obtain ⟨r, hr⟩ := exists_get?_of_latest? (Prod.mk.inj (Except.ok.inj hin)).2
    rw [loadReport_eq hr] at hload
    cases hload
  | upToDate hin hforce hle hload =>
    rw [latestIn_store] at hin
    obtain ⟨hsnapshot, hreport⟩ := Prod.mk.inj (Except.ok.inj hin)
    obtain ⟨r, hr⟩ := exists_get?_of_latest? hreport
    obtain rfl := Except.ok.inj ((loadReport_eq hr).symm.trans hload)
    exact .upToDate hsnapshot hreport hforce hle hr
  | failed hin hdue hrefresh =>
    rw [latestIn_store] at hin
    obtain ⟨hsnapshot, rfl⟩ := Prod.mk.inj (Except.ok.inj hin)
    obtain ⟨lines, hget, ⟨cause, haudit, heq⟩ | ⟨found, m', _, _, heq⟩⟩ :=
      refreshing_cases hsnapshot hrefresh
    · cases heq
      exact .uncompiled hsnapshot hdue hget haudit
    · cases heq
  | refreshed hin hdue hrefresh =>
    rw [latestIn_store] at hin
    obtain ⟨hsnapshot, rfl⟩ := Prod.mk.inj (Except.ok.inj hin)
    obtain ⟨lines, hget, ⟨cause, _, heq⟩ | ⟨found, m', haudit, hkept, heq⟩⟩ :=
      refreshing_cases hsnapshot hrefresh
    · cases heq
    · cases heq
      exact .refreshed hsnapshot hdue hget haudit hkept

theorem kept_of_scan (a : Auditor) (now : Moment) (device : Device) (force : Bool) (m : Memory) :
    (∀ d, (((a.scan now device force).run.run store m).2.1.of d).snapshots = (m.of d).snapshots) ∧
      ∀ d, d ≠ device.name → ((a.scan now device force).run.run store m).2.1.of d = m.of d := by
  have hscan := scan_scanned a now device force m
  generalize (a.scan now device force).run.run store m = outcome at hscan ⊢
  cases hscan with
  | noConfig | upToDate | uncompiled => exact ⟨fun _ => rfl, fun _ _ => rfl⟩
  | refreshed _ _ _ _ hkept => exact ⟨hkept.snapshots, hkept.others⟩

theorem of_scan_of_ne {device : Device} (h : other ≠ device.name) (a : Auditor) (now : Moment)
    (force : Bool) (m : Memory) :
    ((a.scan now device force).run.run store m).2.1.of other = m.of other :=
  (kept_of_scan a now device force m).2 other h

theorem scan_snapshots (a : Auditor) (now : Moment) (device : Device) (force : Bool) (m : Memory)
    (d : String) :
    (((a.scan now device force).run.run store m).2.1.of d).snapshots = (m.of d).snapshots :=
  (kept_of_scan a now device force m).1 d

end Conformance.Memory
