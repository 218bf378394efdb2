import Conformance.Proofs.Refresh.Failure
import Mathlib.Algebra.GroupWithZero.Nat

/-!
# What the counters tell

The counters of a session tell how many scans came to which outcome, how many failed to compile, and
how many lines the reports have that the scans made. A report is made before it is kept, so its lines
are counted also where the store then fails to keep it.
-/
namespace Conformance

/-! ## The names of counters -/

namespace Metric

def statusName (status : Option AuditStatus) : String :=
  (status.map AuditStatus.name).getD "none"

theorem quote_not_mem_statusName (status : Option AuditStatus) :
    '"' ∉ (statusName status).toList := by
  rcases status with _ | _ | _ | _ | _ <;> decide

theorem ofName?_statusName (status : Option AuditStatus) :
    AuditStatus.ofName? (statusName status) = status := by
  rcases status with _ | _ | _ | _ | _ <;> decide

theorem toList_label (key value : String) : (label key value).toList =
    key.toList ++ ['='] ++ '"' :: (value.toList ++ ['"']) := by
  simp only [label, String.toList_append, List.append_assoc]
  rfl

/-- The name of a counter of scans, up to the quote in front of the status. -/
def beforeStatus (outcome : String) : List Char :=
  "audit_scans_total\x7b".toList ++ (label "outcome" outcome).toList ++ ",".toList ++
    ("status".toList ++ ['='])

theorem beforeStatus_eq (outcome : String) : beforeStatus outcome =
    "audit_scans_total\x7b".toList ++ (label "outcome" outcome).toList ++ ",".toList ++
      ("status".toList ++ ['=']) := rfl

theorem toList_name_scans (outcome : String) (status : Option AuditStatus) :
    (scans outcome status).name.toList =
      beforeStatus outcome ++ '"' :: (statusName status).toList ++ ['"', '\x7d'] := by
  have hname : (scans outcome status).name = "audit_scans_total\x7b" ++ label "outcome" outcome ++
      "," ++ label "status" (statusName status) ++ "\x7d" := rfl
  have hend : "\x7d".toList = ['\x7d'] := rfl
  simp only [hname, beforeStatus_eq, String.toList_append, toList_label "status", hend,
    List.append_assoc, List.cons_append, List.nil_append]

theorem beforeStatus_injective : Function.Injective beforeStatus := by
  intro outcome outcome' h
  simp only [beforeStatus_eq, toList_label, List.append_assoc, List.append_right_inj,
    List.cons_append, List.cons.injEq, true_and] at h
  exact String.toList_injective (List.append_cancel_right h)

/-- Behind the last of some marks two texts are the same, and so they are in front of it. -/
theorem append_mark_inj {mark : Char} {x x' y y' : List Char} (hy : mark ∉ y) (hy' : mark ∉ y')
    (h : x ++ mark :: y = x' ++ mark :: y') : x = x' ∧ y = y' := by
  rcases List.append_eq_append_iff.mp h with ⟨z, rfl, hz⟩ | ⟨z, rfl, hz⟩
  · cases z with
    | nil => exact ⟨by simp, (List.cons.inj hz).2⟩
    | cons c z => simp [(List.cons.inj hz).2] at hy
  · cases z with
    | nil => exact ⟨by simp, (List.cons.inj hz).2.symm⟩
    | cons c z => simp [(List.cons.inj hz).2] at hy'

theorem name_scans_inj {outcome outcome' : String} {status status' : Option AuditStatus}
    (h : (scans outcome status).name = (scans outcome' status').name) :
    outcome = outcome' ∧ status = status' := by
  have hchars := congrArg String.toList h
  rw [toList_name_scans, toList_name_scans] at hchars
  obtain ⟨hbefore, hstatus⟩ := append_mark_inj (quote_not_mem_statusName status)
    (quote_not_mem_statusName status') (List.append_cancel_right hchars)
  refine ⟨beforeStatus_injective hbefore, ?_⟩
  rw [← ofName?_statusName status, String.toList_injective hstatus, ofName?_statusName]

/-- Counters of scans, of lines and of failures differ in the seventh character of their names. -/
theorem getElem?_name_scans (outcome : String) (status : Option AuditStatus) :
    (scans outcome status).name.toList[6]? = some 's' := by
  rw [toList_name_scans, beforeStatus_eq]
  simp only [List.append_assoc]
  rw [List.getElem?_append_left (by decide)]
  decide

theorem name_injective : Function.Injective name := by
  have hmarks : ∀ m ∈ [missingLines, extraLines, compileFailures],
      m.name.toList[6]? ≠ some 's' := by decide
  have hothers : ∀ m ∈ [missingLines, extraLines, compileFailures],
      ∀ m' ∈ [missingLines, extraLines, compileFailures], m.name = m'.name → m = m' := by decide
  have hscans : ∀ outcome status, ∀ m ∈ [missingLines, extraLines, compileFailures],
      (scans outcome status).name ≠ m.name :=
    fun outcome status m hm h => hmarks m hm (h ▸ getElem?_name_scans outcome status)
  have hkinds : ∀ m, (∃ outcome status, m = scans outcome status) ∨
      m ∈ [missingLines, extraLines, compileFailures] := by
    rintro (⟨outcome, status⟩ | _ | _ | _) <;> simp
  intro m m' h
  rcases hkinds m with ⟨outcome, status, rfl⟩ | hm
  · rcases hkinds m' with ⟨outcome', status', rfl⟩ | hm'
    · obtain ⟨rfl, rfl⟩ := name_scans_inj h
      rfl
    · exact absurd h (hscans outcome status m' hm')
  · rcases hkinds m' with ⟨outcome', status', rfl⟩ | hm'
    · exact absurd h.symm (hscans outcome' status' m hm)
    · exact hothers m hm m' hm' h

end Metric

/-! ## What events add -/

def added (counted : List Count) (m : Metric) : Nat :=
  ((counted.filter fun e => e.metric = m).map Count.amount).sum

@[simp] theorem added_nil (m : Metric) : added [] m = 0 := rfl

@[simp] theorem added_cons (e : Count) (counted : List Count) (m : Metric) :
    added (e :: counted) m = (if e.metric = m then e.amount else 0) + added counted m := by
  by_cases h : e.metric = m <;> simp [added, h]

namespace Counters

theorem value_add (c : Counters) (e : Count) (m : Metric) :
    (c.add e).value m = c.value m + if e.metric = m then e.amount else 0 := by
  by_cases h : e.metric = m
  · subst h
    rw [if_pos rfl, add, value, Catalog.get?_insert_self]
    rfl
  · have hname : m.name ≠ e.metric.name := fun heq => h (Metric.name_injective heq).symm
    rw [if_neg h, add, value, Catalog.get?_insert_of_ne hname]
    rfl

theorem value_addAll (c : Counters) (counted : List Count) (m : Metric) :
    (c.addAll counted).value m = c.value m + added counted m := by
  induction counted generalizing c with
  | nil => rfl
  | cons e counted ih =>
    have hstep : c.addAll (e :: counted) = (c.add e).addAll counted := rfl
    rw [hstep, ih, value_add, added_cons, Nat.add_assoc]

end Counters

/-! ## What scans come to -/

namespace Auditor

/-- The report that a scan makes, if it comes so far: a refresh is due, and the newest snapshot can
be loaded and audited. Whether the store then keeps the report is another matter. -/
def made? {σ : Type} (store : Store σ) (a : Auditor) (device : Device) (force : Bool) (s : σ) :
    Option DeviationReport :=
  match latestIn store device.name s with
  | .ok (some snapshot, report) =>
    if Freshness.evaluate (some snapshot.1) (report.map Prod.fst) force = .stale then
      match (store (.loadSnapshot device.name snapshot.2) s).1 with
      | .ok lines => (a.audit device lines).toOption.map Prod.snd
      | .error _ => none
    else none
  | _ => none

end Auditor

/-- A scan's result, and the report that it made on the way. -/
structure ScanRecord where
  result : Except ScanError Outcome
  made : Option DeviationReport

namespace ScanRecord

def returned (outcome : String) (status : Option AuditStatus) (x : ScanRecord) : Bool :=
  match x.result with
  | .ok o => o.name = outcome ∧ o.status? = status
  | .error _ => false

def refreshed? (x : ScanRecord) : Option DeviationReport :=
  match x.result with
  | .ok (.refreshed r _) => some r.report
  | _ => none

def unkept? (x : ScanRecord) : Option DeviationReport :=
  match x.result with
  | .error (.store _) => x.made
  | _ => none

def failedToCompile (x : ScanRecord) : Bool :=
  match x.result with
  | .error (.compile _ _) => true
  | _ => false

end ScanRecord

/-- How many of some lines there are in the reports of the scans that refreshed, and of those whose
report the store could not keep. -/
def reportedLines (lines : DeviationReport → List String) (log : List ScanRecord) : Nat :=
  ((log.filterMap ScanRecord.refreshed?).map fun r => (lines r).length).sum +
    ((log.filterMap ScanRecord.unkept?).map fun r => (lines r).length).sum

theorem reportedLines_append (lines : DeviationReport → List String) (log log' : List ScanRecord) :
    reportedLines lines (log ++ log') = reportedLines lines log + reportedLines lines log' := by
  simp only [reportedLines, List.filterMap_append, List.map_append, List.sum_append]
  omega

/-- Counters tell of scans how many came to what, and how many lines they reported. -/
structure Tells (value : Metric → Nat) (log : List ScanRecord) : Prop where
  scans : ∀ outcome status,
    value (.scans outcome status) = log.countP (ScanRecord.returned outcome status)
  missingLines : value .missingLines = reportedLines DeviationReport.missing log
  extraLines : value .extraLines = reportedLines DeviationReport.extra log
  compileFailures : value .compileFailures = log.countP ScanRecord.failedToCompile

theorem Tells.append {value value' : Metric → Nat} {log log' : List ScanRecord}
    (h : Tells value log) (h' : Tells value' log') :
    Tells (fun m => value m + value' m) (log ++ log') where
  scans outcome status := by
    rw [h.scans, h'.scans, List.countP_append]
  missingLines := by
    rw [h.missingLines, h'.missingLines, reportedLines_append]
  extraLines := by
    rw [h.extraLines, h'.extraLines, reportedLines_append]
  compileFailures := by
    rw [h.compileFailures, h'.compileFailures, List.countP_append]

/-! ## One scan -/

namespace ScanRecord

attribute [local simp] returned refreshed? unkept? failedToCompile reportedLines
  List.filterMap_cons Auditor.scanCount Auditor.lineCounts

variable {made : Option DeviationReport} {report : DeviationReport}

theorem tells_unmade (cause : StoreError) : Tells (added []) [⟨.error (.store cause), none⟩] := by
  constructor <;> simp

theorem tells_unkept (cause : StoreError) :
    Tells (added (Auditor.lineCounts report)) [⟨.error (.store cause), some report⟩] := by
  constructor <;> simp

theorem tells_uncompiled (device : String) (cause : CompileError) :
    Tells (added [⟨.compileFailures, 1⟩]) [⟨.error (.compile device cause), made⟩] := by
  constructor <;> simp

theorem added_scanCount (o : Outcome) (outcome : String) (status : Option AuditStatus) :
    added (Auditor.scanCount o) (.scans outcome status) =
      [(⟨.ok o, made⟩ : ScanRecord)].countP (returned outcome status) := by
  by_cases h : o.name = outcome ∧ o.status? = status <;> simp [h]

theorem tells_noConfig : Tells (added (Auditor.scanCount .noConfig)) [⟨.ok .noConfig, made⟩] := by
  refine ⟨added_scanCount .noConfig, ?_, ?_, ?_⟩ <;> simp

theorem tells_upToDate (r : StoredReport) :
    Tells (added (Auditor.scanCount (.upToDate r))) [⟨.ok (.upToDate r), made⟩] := by
  refine ⟨added_scanCount (.upToDate r), ?_, ?_, ?_⟩ <;> simp

theorem tells_refreshed (r : StoredReport) (n : Nat) :
    Tells (added (Auditor.lineCounts r.report ++ Auditor.scanCount (.refreshed r n)))
      [⟨.ok (.refreshed r n), made⟩] := by
  refine ⟨fun outcome status => ?_, ?_, ?_, ?_⟩
  · rw [← added_scanCount]
    simp
  · simp
  · simp
  · simp

end ScanRecord

namespace Auditor

variable {σ : Type} {store : Store σ} {s s' : σ} {a : Auditor} {now : Moment} {device : Device}
  {force : Bool} {snapshot : Moment × String} {report : Option (Moment × String)}

theorem made?_of_isDue (hin : latestIn store device.name s = .ok (some snapshot, report))
    (hdue : IsDue force snapshot report) : made? store a device force s =
      match (store (.loadSnapshot device.name snapshot.2) s).1 with
      | .ok lines => (a.audit device lines).toOption.map Prod.snd
      | .error _ => none := by
  simp only [made?, hin, hdue.evaluate, if_true]

theorem made?_of_le {report : Moment × String}
    (hin : latestIn store device.name s = .ok (some snapshot, some report))
    (hle : snapshot.1 ≤ report.1) : made? store a device false s = none := by
  have hcurrent : Freshness.evaluate (some snapshot.1) (some report.1) false = .upToDate :=
    Freshness.evaluate_eq_upToDate.mpr ⟨report.1, rfl, hle⟩
  simp [made?, hin, hcurrent]

/-- A scan that comes to an end counts itself, one that fails does not. Lines are counted as soon as
there is a report, failures to compile as they happen. -/
theorem tells_scan (hstore : store.KeepsOnReading) (a : Auditor) (now : Moment) (device : Device)
    (force : Bool) (s : σ) :
    Tells (added ((a.scan now device force).run.run store s).2.2)
      [⟨((a.scan now device force).run.run store s).1, made? store a device force s⟩] := by
  have hscan := scan_scanning hstore a now device force s
  generalize (a.scan now device force).run.run store s = outcome at hscan ⊢
  cases hscan with
  | unlisted hin =>
    have hmade : made? store a device force s = none := by simp only [made?, hin]
    rw [hmade]
    exact ScanRecord.tells_unmade _
  | noConfig hin => exact ScanRecord.tells_noConfig
  | unreadable hin hforce hle _ =>
    subst hforce
    rw [made?_of_le hin hle]
    exact ScanRecord.tells_unmade _
  | upToDate _ _ _ _ => exact ScanRecord.tells_upToDate _
  | failed hin hdue hrefresh =>
    rw [made?_of_isDue hin hdue]
    cases hrefresh with
    | unloaded hload =>
      rw [hload]
      exact ScanRecord.tells_unmade _
    | uncompiled _ _ => exact ScanRecord.tells_uncompiled _ _
    | undiscarded hload haudit _ =>
      simp only [hload, haudit]
      exact ScanRecord.tells_unkept _
    | unsaved hload haudit _ _ =>
      simp only [hload, haudit]
      exact ScanRecord.tells_unkept _
  | refreshed _ _ hrefresh =>
    cases hrefresh with
    | saved _ _ _ _ => exact ScanRecord.tells_refreshed (reportOn now device _ _) _

theorem unkept?_memory (a : Auditor) (now : Moment) (device : Device) (force : Bool) (m : Memory)
    (made : Option DeviationReport) :
    ScanRecord.unkept? ⟨((a.scan now device force).run.run Memory.store m).1, made⟩ = none := by
  have hscan := Memory.scan_scanned a now device force m
  generalize (a.scan now device force).run.run Memory.store m = outcome at hscan ⊢
  cases hscan <;> rfl

end Auditor

/-! ## Sessions -/

/-- What happens to a store: someone changes it, or a device is scanned. -/
inductive Event (σ : Type) where
  | change (f : σ → σ)
  | scan (a : Auditor) (now : Moment) (device : Device) (force : Bool)

/-- A store, what was counted over it so far, and the scans that were made of it. -/
structure Ledger (σ : Type) where
  state : σ
  counters : Counters
  log : List ScanRecord

namespace Ledger

variable {σ : Type} {store : Store σ}

def step (store : Store σ) (l : Ledger σ) : Event σ → Ledger σ
  | .change f => { l with state := f l.state }
  | .scan a now device force =>
    let (result, state, counted) := (a.scan now device force).run.run store l.state
    ⟨state, l.counters.addAll counted,
      l.log ++ [⟨result, Auditor.made? store a device force l.state⟩]⟩

def run (store : Store σ) (l : Ledger σ) (events : List (Event σ)) : Ledger σ :=
  events.foldl (step store) l

def start (s : σ) : Ledger σ :=
  ⟨s, .empty, []⟩

theorem tells_start (s : σ) : Tells (start s).counters.value (start s).log := by
  constructor <;> intros <;> rfl

theorem tells_step (hstore : store.KeepsOnReading) {l : Ledger σ}
    (h : Tells l.counters.value l.log) (e : Event σ) :
    Tells (l.step store e).counters.value (l.step store e).log := by
  cases e with
  | change f => exact h
  | scan a now device force =>
    have hscan := h.append (Auditor.tells_scan hstore a now device force l.state)
    simp only [step]
    convert hscan using 1
    funext m
    exact Counters.value_addAll _ _ m

theorem tells_run (hstore : store.KeepsOnReading) {l : Ledger σ}
    (h : Tells l.counters.value l.log) (events : List (Event σ)) :
    Tells (l.run store events).counters.value (l.run store events).log := by
  induction events generalizing l with
  | nil => exact h
  | cons e events ih => exact ih (tells_step hstore h e)

theorem unkept?_run_memory {l : Ledger Memory} (h : l.log.filterMap ScanRecord.unkept? = [])
    (events : List (Event Memory)) :
    (l.run Memory.store events).log.filterMap ScanRecord.unkept? = [] := by
  induction events generalizing l with
  | nil => exact h
  | cons e events ih =>
    apply ih
    cases e with
    | change f => exact h
    | scan a now device force =>
      simp only [step, List.filterMap_append, h, List.nil_append, List.filterMap_cons,
        Auditor.unkept?_memory, List.filterMap_nil]

/-- Over both kinds of stores and whatever happens between the scans, the counters tell how many
scans came to which outcome and how many failed to compile. Those of lines tell the lines of the
reports that scans made: of the refreshed, and of those that the store failed to keep, which are
none over a store in memory. -/
theorem counters_tell :
    (∀ (m : Memory) (events : List (Event Memory)),
      Tells ((start m).run Memory.store events).counters.value
        ((start m).run Memory.store events).log ∧
      ((start m).run Memory.store events).log.filterMap ScanRecord.unkept? = []) ∧
    ∀ (d : Directories) (t : FileTree) (events : List (Event FileTree)),
      Tells ((start t).run d.store events).counters.value ((start t).run d.store events).log :=
  ⟨fun m events => ⟨tells_run Memory.keepsOnReading (tells_start m) events,
      unkept?_run_memory rfl events⟩,
    fun d t events => tells_run d.keepsOnReading (tells_start t) events⟩

def asking : Auditor :=
  ⟨⟨[⟨1, "set a"⟩], [], [], [], []⟩, .empty⟩

/-- A scan that makes a report and cannot save it, over the tree where the report cannot be
written. -/
def obstructed : Ledger FileTree :=
  (start Directories.obstructed).run (Directories.mk "snapshots" "reports").store
    [.scan asking ⟨2024, 5, 1, 12, 0, 0⟩ ⟨"sw1", .els⟩ false]

/-- A line of a report that could not be saved is counted although no scan refreshed. -/
theorem missingLines_obstructed :
    obstructed.counters.value .missingLines = 1 ∧
      ((obstructed.log.filterMap ScanRecord.refreshed?).map (·.missing.length)).sum = 0 := by
  constructor <;> decide +kernel

end Ledger
end Conformance
