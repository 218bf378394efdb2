import Conformance.Proofs.Fleet.Footprint
import Conformance.Proofs.Fleet.Provenance

/-!
# Fleets at rest

A scan without force puts its device to rest: there is no snapshot, or a report covers the newest one,
or the templates for it do not compile. Scans of other devices do not wake it, and a scan of a device
at rest changes nothing.
-/
namespace Conformance

def IsStoreFailure (result : Except ScanError Outcome) : Prop :=
  ∃ cause, result = .error (.store cause)

instance (result : Except ScanError Outcome) : Decidable (IsStoreFailure result) :=
  match result with
  | .error (.store cause) => .isTrue ⟨cause, rfl⟩
  | .error (.compile _ _) => .isFalse (by rintro ⟨cause, h⟩; cases h)
  | .ok _ => .isFalse (by rintro ⟨cause, h⟩; cases h)

/-- An answer of a scan that finds nothing to do: if it fails, then as the first one did. -/
def IsCalm (first result : Except ScanError Outcome) : Prop :=
  result = .ok .noConfig ∨ (∃ r, result = .ok (.upToDate r)) ∨
    ∃ device cause, result = .error (.compile device cause) ∧ result = first

theorem Stamp.latest?_congr {ids ids' : List String} (h : ∀ id, id ∈ ids' ↔ id ∈ ids) :
    latest? ids' = latest? ids := by
  apply Option.ext
  intro e
  simp only [latest?_eq_some, h]

theorem Stamp.exists_le_latest? {ids : List String} {id : String} {t : Moment} (hid : id ∈ ids)
    (hparse : parse id = some t) : ∃ e, latest? ids = some e ∧ t ≤ e.1 := by
  cases hlatest : latest? ids with
  | none =>
    rw [latest?_eq_none.mp hlatest id hid] at hparse
    cases hparse
  | some e =>
    have hmax := (latest?_eq_some.mp hlatest).2.2 id hid t hparse
    exact ⟨e, rfl, Prod.Lex.monotone_fst _ _ hmax⟩

variable {σ : Type} {store : Store σ} {s s' : σ} {a : Auditor} {device : Device}
  {result : Except ScanError Outcome}

namespace Store

/-- What is asked about a device is answered after a change by others as before it, as far as it is
answered; there may be more reports. -/
structure Follows (store : Store σ) (name : String) (s s' : σ) : Prop where
  snapshots : ∀ old new : List String, (store (.snapshotIds name) s).1 = .ok old →
    (store (.snapshotIds name) s').1 = .ok new → ∀ id, id ∈ new ↔ id ∈ old
  lines : ∀ old : List String, (store (.snapshotIds name) s).1 = .ok old → ∀ id ∈ old,
    (store (.loadSnapshot name id) s').1 = (store (.loadSnapshot name id) s).1
  reports : ∀ old new : List String, (store (.reportIds name) s).1 = .ok old →
    (store (.reportIds name) s').1 = .ok new → old ⊆ new

theorem Follows.refl (store : Store σ) (name : String) (s : σ) : store.Follows name s s where
  snapshots old new hold hnew id := by rw [Except.ok.inj (hold.symm.trans hnew)]
  lines _ _ _ _ := rfl
  reports old new hold hnew := by
    rw [Except.ok.inj (hold.symm.trans hnew)]
    exact List.Subset.refl new

/-- A report is among those of its device after it was kept, and nothing else is new. -/
structure Gains (store : Store σ) (r : StoredReport) (s s' : σ) : Prop where
  snapshots : ∀ old : List String, (store (.snapshotIds r.device) s).1 = .ok old →
    r.snapshot ∈ old → ∃ new : List String, (store (.snapshotIds r.device) s').1 = .ok new ∧
      ∀ id ∈ new, id = r.id ∨ id ∈ old
  reports : ∃ new : List String, (store (.reportIds r.device) s').1 = .ok new ∧ r.id ∈ new

end Store

namespace Auditor

/-- There is nothing to do for a device, or nothing that can be done but to fail with this result. -/
inductive Rests (store : Store σ) (a : Auditor) (device : Device)
    (result : Except ScanError Outcome) (s : σ) : Prop
  | empty {report} :
    latestIn store device.name s = .ok (none, report) → Rests store a device result s
  | covered {snapshot report : Moment × String} :
    latestIn store device.name s = .ok (some snapshot, some report) → snapshot.1 ≤ report.1 →
    Rests store a device result s
  | uncompiled {snapshot report lines cause} :
    latestIn store device.name s = .ok (some snapshot, report) →
    (store (.loadSnapshot device.name snapshot.2) s).1 = .ok lines →
    a.audit device lines = .error cause → result = .error (.compile device.name cause) →
    Rests store a device result s

/-! ## Scans at rest -/

theorem scan_of_covered (hstore : store.KeepsOnReading) (now : Moment)
    {snapshot report : Moment × String}
    (hin : latestIn store device.name s = .ok (some snapshot, some report))
    (hle : snapshot.1 ≤ report.1) :
    ((a.scan now device false).run.run store s).2.1 = s ∧
      (IsStoreFailure ((a.scan now device false).run.run store s).1 ∨
        IsCalm result ((a.scan now device false).run.run store s).1) := by
  have hdecide := run_decide_upToDate hstore a now device s hle
  cases hload : (store (.loadReport device.name report.2) s).1 with
  | error cause =>
    rw [hload] at hdecide
    rw [run_scan_error hstore hin hdecide]
    exact ⟨rfl, .inl ⟨cause, rfl⟩⟩
  | ok r =>
    rw [hload] at hdecide
    rw [run_scan_ok hstore hin hdecide]
    exact ⟨rfl, .inr (.inr (.inl ⟨r, rfl⟩))⟩

theorem Rests.scan (hstore : store.KeepsOnReading) (h : Rests store a device result s)
    (now : Moment) :
    ((a.scan now device false).run.run store s).2.1 = s ∧
      (IsStoreFailure ((a.scan now device false).run.run store s).1 ∨
        IsCalm result ((a.scan now device false).run.run store s).1) := by
  cases h with
  | @empty report hin =>
    have hdecide : (a.decide now device false none report).run.run store s =
        (.ok .noConfig, s, []) := rfl
    rw [run_scan_ok hstore hin hdecide]
    exact ⟨rfl, .inr (.inl rfl)⟩
  | covered hin hle => exact scan_of_covered hstore now hin hle
  | @uncompiled snapshot report lines cause hin hload haudit hresult =>
    rcases isDue_or false snapshot report with hdue | ⟨-, r, rfl, hle⟩
    · have hdecide : (a.decide now device false (some snapshot) report).run.run store s =
          (.error (.compile device.name cause), s, [⟨.compileFailures, 1⟩]) := by
        rw [decide_due a now device hdue]
        exact run_refresh_error hstore hload haudit
      rw [run_scan_error hstore hin hdecide]
      exact ⟨rfl, .inr (.inr (.inr ⟨device.name, cause, rfl, hresult.symm⟩))⟩
    · exact scan_of_covered hstore now hin hle

/-- A device that rests goes on to rest while others are scanned. -/
theorem Rests.follows {newest : Option (Moment × String) × Option (Moment × String)}
    (h : Rests store a device result s) (hfollows : store.Follows device.name s s')
    (hin' : latestIn store device.name s' = .ok newest) : Rests store a device result s' := by
  obtain ⟨snapshot', report'⟩ := newest
  obtain ⟨new, newReports, hnew, hnewReports, rfl, rfl⟩ := latestIn_eq_ok hin'
  have hsame : ∀ {old : List String}, (store (.snapshotIds device.name) s).1 = .ok old →
      Stamp.latest? new = Stamp.latest? old :=
    fun hold => Stamp.latest?_congr (hfollows.snapshots _ new hold hnew)
  cases h with
  | empty hin =>
    obtain ⟨old, _, hold, -, hnone, -⟩ := latestIn_eq_ok hin
    rw [hsame hold, ← hnone] at hin'
    exact .empty hin'
  | @covered snapshot report hin hle =>
    obtain ⟨old, oldReports, hold, holdReports, hsnapshot, hreport⟩ := latestIn_eq_ok hin
    obtain ⟨hmem, hparse, -⟩ := Stamp.latest?_eq_some.mp hreport.symm
    have hmem' := hfollows.reports oldReports newReports holdReports hnewReports hmem
    rw [hsame hold, ← hsnapshot] at hin'
    obtain ⟨report', hreport', hle'⟩ := Stamp.exists_le_latest? hmem' hparse
    rw [hreport'] at hin'
    exact .covered hin' (hle.trans hle')
  | uncompiled hin hload haudit hresult =>
    obtain ⟨old, _, hold, -, hsnapshot, -⟩ := latestIn_eq_ok hin
    have hmem := (Stamp.latest?_eq_some.mp hsnapshot.symm).1
    rw [hsame hold, ← hsnapshot] at hin'
    exact .uncompiled hin' ((hfollows.lines old hold _ hmem).trans hload) haudit hresult

/-! ## Scans that come to rest -/

theorem rests_of_gains {clock : Clock} {snapshot : Moment × String}
    {report : Option (Moment × String)} {found : Augmentation × DeviationReport}
    (hin : latestIn store device.name s = .ok (some snapshot, report))
    (hgains : store.Gains (reportOn clock.now device snapshot found) s s') :
    Rests store a device result s' := by
  obtain ⟨old, _, hold, -, hsnapshot, -⟩ := latestIn_eq_ok hin
  obtain ⟨hmem, hstamp, hmax⟩ := Stamp.latest?_eq_some.mp hsnapshot.symm
  have hparse : Stamp.parse (reportOn clock.now device snapshot found).id =
      some (reportMoment clock.now snapshot) := parse_reportOn clock.isReal clock.year_le hstamp
  have hle := le_reportMoment clock.isReal clock.year_le hstamp
  obtain ⟨new, hnew, hall⟩ := hgains.snapshots old hold hmem
  obtain ⟨reports, hreports, hid⟩ := hgains.reports
  obtain ⟨newest, hnewest, hlater⟩ := Stamp.exists_le_latest? hid hparse
  have hin' : latestIn store device.name s' = .ok (Stamp.latest? new, some newest) := by
    have hnew' : (store (.snapshotIds device.name) s').1 = .ok new := hnew
    have hreports' : (store (.reportIds device.name) s').1 = .ok reports := hreports
    rw [latestIn, hnew', hreports', ← hnewest]
  cases hlatest : Stamp.latest? new with
  | none =>
    rw [hlatest] at hin'
    exact .empty hin'
  | some last =>
    rw [hlatest] at hin'
    obtain ⟨hlast, hparse', -⟩ := Stamp.latest?_eq_some.mp hlatest
    have hbefore : last.1 ≤ reportMoment clock.now snapshot := by
      rcases hall last.2 hlast with heq | hold'
      · rw [heq, hparse] at hparse'
        exact (Option.some.inj hparse').ge
      · exact (Prod.Lex.monotone_fst _ _ (hmax last.2 hold' last.1 hparse')).trans hle
    exact .covered hin' (hbefore.trans hlater)

end Auditor

/-- Scans devices without force, one after the other, each at its own moment. -/
def Auditor.scanEach (a : Auditor) (store : Store σ) :
    List (Moment × Device) → σ → List DeviceAudit × σ
  | [], s => ([], s)
  | (now, device) :: turns, s =>
    let (result, s, _) := (a.scan now device false).run.run store s
    let (audits, s) := a.scanEach store turns s
    (⟨device.name, result⟩ :: audits, s)

/-- After some scans, others change nothing: each finds nothing to do, or fails as the first scan of its
device did. -/
structure Settled (before after : List DeviceAudit × σ) : Prop where
  state : after.2 = before.2
  calm : ∀ audit ∈ after.1, ∃ result, ⟨audit.device, result⟩ ∈ before.1 ∧
    IsCalm result audit.result

theorem Auditor.scanEach_cons (a : Auditor) (store : Store σ) (turn : Moment × Device)
    (turns : List (Moment × Device)) (s : σ) :
    a.scanEach store (turn :: turns) s =
      (⟨turn.2.name, ((a.scan turn.1 turn.2 false).run.run store s).1⟩ ::
          (a.scanEach store turns ((a.scan turn.1 turn.2 false).run.run store s).2.1).1,
        (a.scanEach store turns ((a.scan turn.1 turn.2 false).run.run store s).2.1).2) :=
  (rfl)

/-- A store in which devices come to rest: how it may change while others are scanned than the device
with a name, and what is answered about that device then. -/
structure Repose (store : Store σ) where
  sound : σ → Prop
  aside : String → σ → σ → Prop
  keepsOnReading : store.KeepsOnReading
  refl (name : String) (s : σ) : aside name s s
  trans {name : String} {s s' s'' : σ} : aside name s s' → aside name s' s'' → aside name s s''
  sound_scan {device : Device} {s : σ} (a : Auditor) (now : Moment) :
    Settings.Accepts device.name → sound s → sound ((a.scan now device false).run.run store s).2.1
  aside_scan {device : Device} {name : String} {s : σ} (a : Auditor) (now : Moment) :
    Settings.Accepts device.name → device.name ≠ name → sound s →
    aside name s ((a.scan now device false).run.run store s).2.1
  follows {name : String} {s s' : σ} :
    Settings.Accepts name → sound s → aside name s s' → store.Follows name s s'
  gains {r : StoredReport} {s s' : σ} {id : String} :
    Request.IsAdmitted (.saveReport r) → sound s → store (.saveReport r) s = (.ok id, s') →
    store.Gains r s s'

namespace Repose

variable (R : Repose store) (a) {turns : List (Moment × Device)}
include R

/-- A scan that the store does not fail puts its device to rest. -/
theorem rests_scan (clock : Clock) (haccepts : Settings.Accepts device.name) (hsound : R.sound s)
    (hstore : ¬ IsStoreFailure ((a.scan clock.now device false).run.run store s).1) :
    a.Rests store device ((a.scan clock.now device false).run.run store s).1
      ((a.scan clock.now device false).run.run store s).2.1 := by
  have hscan := Auditor.scan_scanning R.keepsOnReading a clock.now device false s
  generalize (a.scan clock.now device false).run.run store s = outcome at hscan hstore ⊢
  cases hscan with
  | unlisted _ => exact absurd ⟨_, rfl⟩ hstore
  | noConfig hin => exact .empty hin
  | unreadable _ _ _ _ => exact absurd ⟨_, rfl⟩ hstore
  | upToDate hin _ hle _ => exact .covered hin hle
  | failed hin _ hrefresh =>
    cases hrefresh with
    | unloaded _ => exact absurd ⟨_, rfl⟩ hstore
    | uncompiled hload haudit => exact .uncompiled hin hload haudit rfl
    | undiscarded _ _ _ => exact absurd ⟨_, rfl⟩ hstore
    | unsaved _ _ _ _ => exact absurd ⟨_, rfl⟩ hstore
  | refreshed hin _ hrefresh =>
    cases hrefresh with
    | saved _ _ hdiscard hsave =>
      obtain ⟨-, rfl⟩ := Prod.mk.inj hdiscard
      exact Auditor.rests_of_gains hin (R.gains ⟨haccepts, _, rfl⟩ hsound hsave)

/-- A device has been put to rest, and only others were scanned since. -/
def RestsSince (device : Device) (result : Except ScanError Outcome) (s : σ) : Prop :=
  ∃ s₀, R.sound s₀ ∧ a.Rests store device result s₀ ∧ R.aside device.name s₀ s

variable {R a}

theorem RestsSince.scan (h : R.RestsSince a device result s)
    (haccepts : Settings.Accepts device.name) (now : Moment)
    (hstore : ¬ IsStoreFailure ((a.scan now device false).run.run store s).1) :
    ((a.scan now device false).run.run store s).2.1 = s ∧
      IsCalm result ((a.scan now device false).run.run store s).1 := by
  obtain ⟨s₀, hsound, hrests, haside⟩ := h
  cases hin : Auditor.latestIn store device.name s with
  | error cause =>
    rw [Auditor.run_scan_unlisted R.keepsOnReading hin] at hstore
    exact absurd ⟨cause, rfl⟩ hstore
  | ok newest =>
    have hrests' := hrests.follows (R.follows haccepts hsound haside) hin
    obtain ⟨hstate, hresult⟩ := hrests'.scan R.keepsOnReading now
    exact ⟨hstate, hresult.resolve_left hstore⟩

/-! ## Sessions -/

theorem aside_scanEach {name : String} (haccepts : ∀ e ∈ turns, Settings.Accepts e.2.name)
    (hother : ∀ e ∈ turns, e.2.name ≠ name) (hsound : R.sound s) :
    R.aside name s (a.scanEach store turns s).2 := by
  induction turns generalizing s with
  | nil => exact R.refl name s
  | cons e turns ih =>
    rw [List.forall_mem_cons] at haccepts hother
    have hscan := R.aside_scan a e.1 haccepts.1 hother.1 hsound
    exact R.trans hscan (ih haccepts.2 hother.2 (R.sound_scan a e.1 haccepts.1 hsound))

/-- Once each of several devices was scanned, they all rest. -/
theorem restsSince_scanEach {clock : Device → Clock} {devices : List Device}
    (haccepts : ∀ device ∈ devices, Settings.Accepts device.name)
    (hnodup : (devices.map Device.name).Nodup) (hsound : R.sound s)
    (hstore : ∀ audit ∈ (a.scanEach store (devices.map fun d => ((clock d).now, d)) s).1,
      ¬ IsStoreFailure audit.result) :
    ∀ device ∈ devices, ∃ result,
      ⟨device.name, result⟩ ∈ (a.scanEach store (devices.map fun d => ((clock d).now, d)) s).1 ∧
      R.RestsSince a device result
        (a.scanEach store (devices.map fun d => ((clock d).now, d)) s).2 := by
  induction devices generalizing s with
  | nil => simp
  | cons device devices ih =>
    rw [List.forall_mem_cons] at haccepts
    rw [List.map_cons, List.nodup_cons] at hnodup
    rw [List.map_cons, Auditor.scanEach_cons, List.forall_mem_cons] at hstore
    have hsound' := R.sound_scan a (clock device).now haccepts.1 hsound
    have hother : ∀ turn ∈ devices.map fun d => ((clock d).now, d), turn.2.name ≠ device.name := by
      rintro _ hturn heq
      obtain ⟨other, hother, rfl⟩ := List.mem_map.mp hturn
      exact hnodup.1 (List.mem_map.mpr ⟨other, hother, heq⟩)
    have haccepts' : ∀ turn ∈ devices.map fun d => ((clock d).now, d),
        Settings.Accepts turn.2.name := by
      intro turn hturn
      obtain ⟨other, hother, rfl⟩ := List.mem_map.mp hturn
      exact haccepts.2 other hother
    intro device' hdevice'
    rw [List.map_cons, Auditor.scanEach_cons]
    rcases List.mem_cons.mp hdevice' with rfl | hdevice'
    · exact ⟨_, List.mem_cons_self, _, hsound',
        R.rests_scan a (clock device') haccepts.1 hsound hstore.1,
        aside_scanEach haccepts' hother hsound'⟩
    · obtain ⟨result, hmem, hrests⟩ := ih haccepts.2 hnodup.2 hsound' hstore.2 device' hdevice'
      exact ⟨result, List.mem_cons_of_mem _ hmem, hrests⟩

theorem settled_of_restsSince {before : List DeviceAudit}
    (haccepts : ∀ turn ∈ turns, Settings.Accepts turn.2.name)
    (hrests : ∀ turn ∈ turns, ∃ result,
      ⟨turn.2.name, result⟩ ∈ before ∧ R.RestsSince a turn.2 result s)
    (hstore : ∀ audit ∈ (a.scanEach store turns s).1, ¬ IsStoreFailure audit.result) :
    Settled (before, s) (a.scanEach store turns s) := by
  induction turns with
  | nil => exact ⟨rfl, by simp [Auditor.scanEach]⟩
  | cons turn turns ih =>
    rw [List.forall_mem_cons] at haccepts hrests
    rw [Auditor.scanEach_cons, List.forall_mem_cons] at hstore
    obtain ⟨result, hmem, hrest⟩ := hrests.1
    obtain ⟨hstate, hcalm⟩ := hrest.scan haccepts.1 turn.1 hstore.1
    rw [hstate] at hstore
    have hall := ih haccepts.2 hrests.2 hstore.2
    rw [Auditor.scanEach_cons, hstate]
    exact ⟨hall.state, List.forall_mem_cons.mpr ⟨⟨result, hmem, hcalm⟩, hall.calm⟩⟩

variable (R) in
/-- After one scan of each device, further ones change nothing. -/
theorem settled {clock : Device → Clock} {devices : List Device}
    (haccepts : ∀ device ∈ devices, Settings.Accepts device.name)
    (hnodup : (devices.map Device.name).Nodup) (hturns : ∀ turn ∈ turns, turn.2 ∈ devices)
    (hsound : R.sound s)
    (hstore : let audit := a.scanEach store (devices.map fun d => ((clock d).now, d)) s
      ∀ result ∈ audit.1 ++ (a.scanEach store turns audit.2).1, ¬ IsStoreFailure result.result) :
    let audit := a.scanEach store (devices.map fun d => ((clock d).now, d)) s
    Settled audit (a.scanEach store turns audit.2) := by
  intro audit
  rw [List.forall_mem_append] at hstore
  have hrests := restsSince_scanEach haccepts hnodup hsound hstore.1
  exact settled_of_restsSince (fun turn hturn => haccepts _ (hturns turn hturn))
    (fun turn hturn => hrests _ (hturns turn hturn)) hstore.2

end Repose
end Conformance
