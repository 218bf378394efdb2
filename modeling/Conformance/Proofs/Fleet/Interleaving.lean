import Conformance.Fleet
import Conformance.Proofs.Refresh.Separation
import Mathlib.Logic.Relation

/-!
# Interleaved scans

The scans of a fleet run at the same time. Their requests to the store mix in any way, except that
scans of one device follow each other in the order asked for. In every mixture each next step may as
well be made when the scans before it have come to their ends, so that the results and the store are
those of one scan after the other.
-/
namespace Conformance

open Relation (ReflTransGen)

variable {σ : Type} {store : Store σ}

/-- A scan of a device, as far as it is still to be run. -/
structure FleetTask where
  device : String
  program : Program (Except ScanError Outcome)

namespace FleetTask

def IsDone (t : FleetTask) : Prop :=
  ∃ result, t.program = .done result

/-- The task asks for nothing but its own device. -/
def IsLocal (t : FleetTask) : Prop :=
  t.program.IsOn t.device

def finished (audit : DeviceAudit) : FleetTask :=
  ⟨audit.device, .done audit.result⟩

theorem isDone_finished (audit : DeviceAudit) : (finished audit).IsDone :=
  ⟨audit.result, rfl⟩

end FleetTask

/-- One step of one task: a request, or something to count. No earlier task of the same device is
still to be run. -/
inductive FleetStep (store : Store σ) : List FleetTask × σ → List FleetTask × σ → Prop where
  | ask {before after : List FleetTask} {device : String} {r : Request}
      {next : Except StoreError r.Answer → Program (Except ScanError Outcome)} {s : σ} :
    (∀ t ∈ before, t.device = device → t.IsDone) →
    FleetStep store (before ++ ⟨device, .ask r next⟩ :: after, s)
      (before ++ ⟨device, next (store r s).1⟩ :: after, (store r s).2)
  | count {before after : List FleetTask} {device : String} {event : Count}
      {next : Program (Except ScanError Outcome)} {s : σ} :
    (∀ t ∈ before, t.device = device → t.IsDone) →
    FleetStep store (before ++ ⟨device, .count event next⟩ :: after, s)
      (before ++ ⟨device, next⟩ :: after, s)

def runTasks (store : Store σ) : List FleetTask → σ → List DeviceAudit × σ
  | [], s => ([], s)
  | t :: ts, s =>
    (⟨t.device, (t.program.run store s).1⟩ :: (runTasks store ts (t.program.run store s).2.1).1,
      (runTasks store ts (t.program.run store s).2.1).2)

variable {ts ts' : List FleetTask} {t : FleetTask} {c c' : List FleetTask × σ} {s : σ}

theorem runTasks_cons (t : FleetTask) (ts : List FleetTask) (s : σ) : runTasks store (t :: ts) s =
    (⟨t.device, (t.program.run store s).1⟩ :: (runTasks store ts (t.program.run store s).2.1).1,
      (runTasks store ts (t.program.run store s).2.1).2) := rfl

theorem runTasks_finished (audits : List DeviceAudit) (s : σ) :
    runTasks store (audits.map FleetTask.finished) s = (audits, s) := by
  induction audits with
  | nil => rfl
  | cons audit audits ih =>
    show (audit :: (runTasks store (audits.map FleetTask.finished) s).1,
      (runTasks store (audits.map FleetTask.finished) s).2) = _
    rw [ih]

theorem runTasks_cons_congr {s₁ s₂ : σ}
    (hresult : (t.program.run store s₁).1 = (t.program.run store s₂).1)
    (hrest : runTasks store ts (t.program.run store s₁).2.1 =
      runTasks store ts' (t.program.run store s₂).2.1) :
    runTasks store (t :: ts) s₁ = runTasks store (t :: ts') s₂ := by
  rw [runTasks_cons, runTasks_cons, hresult, hrest]

/-! ## Steps -/

/-- What a request is answered with, and what comes of all tasks, is the same whether the request is
made now or when the tasks before it have come to their ends. -/
theorem runTasks_ask (hstore : store.Separates) {before after : List FleetTask} {device : String}
    {r : Request} {next : Except StoreError r.Answer → Program (Except ScanError Outcome)}
    (hlocal : ∀ t ∈ before, t.IsLocal) (hr : r.device = device)
    (hdone : ∀ t ∈ before, t.device = device → t.IsDone) (s : σ) :
    runTasks store (before ++ ⟨device, next (store r s).1⟩ :: after) (store r s).2 =
      runTasks store (before ++ ⟨device, .ask r next⟩ :: after) s := by
  induction before generalizing s with
  | nil => rfl
  | cons t before ih =>
    rw [List.forall_mem_cons] at hlocal hdone
    by_cases hdevice : t.device = device
    · obtain ⟨result, hresult⟩ := hdone.1 hdevice
      refine runTasks_cons_congr (by rw [hresult]; rfl) ?_
      rw [hresult]
      exact ih hlocal.2 hdone.2 s
    · have hne : r.device ≠ t.device := hr ▸ Ne.symm hdevice
      obtain ⟨hanswer, hrun⟩ := hlocal.1.run_request hstore hne s
      have hlater := ih hlocal.2 hdone.2 (t.program.run store s).2.1
      refine runTasks_cons_congr (by rw [hrun]) ?_
      rw [hrun, ← hanswer]
      exact hlater

theorem runTasks_count {before after : List FleetTask} {device : String} {event : Count}
    {next : Program (Except ScanError Outcome)} (s : σ) :
    runTasks store (before ++ ⟨device, next⟩ :: after) s =
      runTasks store (before ++ ⟨device, .count event next⟩ :: after) s := by
  induction before generalizing s with
  | nil => rfl
  | cons t before ih => exact runTasks_cons_congr rfl (ih _)

theorem forall_isLocal_of_step (h : FleetStep store c c') (hlocal : ∀ t ∈ c.1, t.IsLocal) :
    ∀ t ∈ c'.1, t.IsLocal := by
  cases h with
  | @ask before after device r next s _ =>
    simp only [List.forall_mem_append, List.forall_mem_cons] at hlocal ⊢
    obtain ⟨hbefore, hnow, hafter⟩ := hlocal
    cases hnow with
    | ask _ hnext => exact ⟨hbefore, hnext _, hafter⟩
  | @count before after device event next s _ =>
    simp only [List.forall_mem_append, List.forall_mem_cons] at hlocal ⊢
    obtain ⟨hbefore, hnow, hafter⟩ := hlocal
    cases hnow with
    | count _ hnext => exact ⟨hbefore, hnext, hafter⟩

/-- No step changes what comes of the tasks in the end. -/
theorem runTasks_of_step (hstore : store.Separates) (h : FleetStep store c c')
    (hlocal : ∀ t ∈ c.1, t.IsLocal) : runTasks store c'.1 c'.2 = runTasks store c.1 c.2 := by
  cases h with
  | @ask before after device r next s hdone =>
    simp only [List.forall_mem_append, List.forall_mem_cons] at hlocal
    obtain ⟨hbefore, hnow, -⟩ := hlocal
    cases hnow with
    | ask hr _ => exact runTasks_ask hstore hbefore hr hdone s
  | @count before after device event next s _ => exact runTasks_count s

theorem runTasks_of_steps (hstore : store.Separates) (h : ReflTransGen (FleetStep store) c c')
    (hlocal : ∀ t ∈ c.1, t.IsLocal) : runTasks store c'.1 c'.2 = runTasks store c.1 c.2 := by
  have hboth : (∀ t ∈ c'.1, t.IsLocal) ∧
      runTasks store c'.1 c'.2 = runTasks store c.1 c.2 := by
    induction h with
    | refl => exact ⟨hlocal, rfl⟩
    | tail _ hstep ih =>
      exact ⟨forall_isLocal_of_step hstep ih.1, (runTasks_of_step hstore hstep ih.1).trans ih.2⟩
  exact hboth.2

/-! ## Coming to an end -/

theorem exists_finished_task (done : List DeviceAudit) (device : String)
    (program : Program (Except ScanError Outcome)) (ts : List FleetTask) (s : σ) :
    ∃ result s', ReflTransGen (FleetStep store)
      (done.map FleetTask.finished ++ ⟨device, program⟩ :: ts, s)
      (done.map FleetTask.finished ++ ⟨device, .done result⟩ :: ts, s') := by
  have hdone : ∀ t ∈ done.map FleetTask.finished, t.device = device → t.IsDone := by
    intro t ht _
    obtain ⟨audit, -, rfl⟩ := List.mem_map.mp ht
    exact FleetTask.isDone_finished audit
  induction program generalizing s with
  | done result => exact ⟨result, s, .refl⟩
  | ask r next ih =>
    obtain ⟨result, s', hrest⟩ := ih (store r s).1 (store r s).2
    exact ⟨result, s', .head (.ask hdone) hrest⟩
  | count event next ih =>
    obtain ⟨result, s', hrest⟩ := ih s
    exact ⟨result, s', .head (.count hdone) hrest⟩

theorem exists_finished (ts : List FleetTask) (s : σ) : ∃ (audits : List DeviceAudit) (s' : σ),
    ReflTransGen (FleetStep store) (ts, s) (audits.map FleetTask.finished, s') := by
  have hmore : ∀ (done : List DeviceAudit) (s : σ), ∃ (audits : List DeviceAudit) (s' : σ),
      ReflTransGen (FleetStep store) (done.map FleetTask.finished ++ ts, s)
        (audits.map FleetTask.finished, s') := by
    induction ts with
    | nil => exact fun done s => ⟨done, s, by rw [List.append_nil]⟩
    | cons t ts ih =>
      intro done s
      obtain ⟨result, s', hfirst⟩ := exists_finished_task done t.device t.program ts s
      obtain ⟨audits, s'', hrest⟩ := ih (done ++ [DeviceAudit.mk t.device result]) s'
      have hnext : (done ++ [DeviceAudit.mk t.device result]).map FleetTask.finished ++ ts =
          done.map FleetTask.finished ++ ⟨t.device, .done result⟩ :: ts := by
        rw [List.map_append, List.append_assoc]
        rfl
      rw [hnext] at hrest
      exact ⟨audits, s'', hfirst.trans hrest⟩
  exact hmore [] s

namespace Auditor

variable {a : Auditor} {now : Moment} {force : Bool}

def task (a : Auditor) (now : Moment) (force : Bool) (device : Device) : FleetTask :=
  ⟨device.name, (a.scan now device force).run⟩

theorem isLocal_task (a : Auditor) (now : Moment) (force : Bool) (device : Device) :
    (a.task now force device).IsLocal :=
  isOn_scan a now device force

theorem runTasks_map_task (a : Auditor) (now : Moment) (force : Bool) (devices : List Device)
    (s : σ) : runTasks store (devices.map (a.task now force)) s =
      a.scanAll store now force devices s := by
  induction devices generalizing s with
  | nil => rfl
  | cons device devices ih =>
    rw [List.map_cons, runTasks_cons, ih]
    rfl

theorem scanAll_cons (device : Device) (devices : List Device) (s : σ) :
    a.scanAll store now force (device :: devices) s =
      (⟨device.name, ((a.scan now device force).run.run store s).1⟩ ::
          (a.scanAll store now force devices ((a.scan now device force).run.run store s).2.1).1,
        (a.scanAll store now force devices ((a.scan now device force).run.run store s).2.1).2) := rfl

theorem map_device_scanAll (devices : List Device) (s : σ) :
    (a.scanAll store now force devices s).1.map DeviceAudit.device = devices.map Device.name := by
  induction devices generalizing s with
  | nil => rfl
  | cons device devices ih =>
    rw [scanAll_cons, List.map_cons, List.map_cons, ih]

/-- A scan of another device beforehand makes no difference to scans of a device. -/
theorem scanAll_of_separates (hstore : store.Separates) {devices : List Device} {other : Device}
    (hother : ∀ d ∈ devices, d.name ≠ other.name) (s : σ) :
    (a.scanAll store now force devices ((a.scan now other force).run.run store s).2.1).1 =
      (a.scanAll store now force devices s).1 := by
  induction devices generalizing s with
  | nil => rfl
  | cons device devices ih =>
    rw [List.forall_mem_cons] at hother
    have hscan := (isOn_scan a now other force).run_run (isOn_scan a now device force) hstore
      hother.1 s
    rw [scanAll_cons, scanAll_cons, hscan]
    exact congrArg (_ :: ·) (ih hother.2 _)

theorem filter_scanAll (hstore : store.Separates) (name : String) (devices : List Device) (s : σ) :
    (a.scanAll store now force devices s).1.filter (·.device == name) =
      (a.scanAll store now force (devices.filter (·.name == name)) s).1 := by
  induction devices generalizing s with
  | nil => rfl
  | cons device devices ih =>
    rw [scanAll_cons]
    by_cases hname : device.name = name
    · have hkeep := beq_iff_eq.mpr hname
      rw [List.filter_cons_of_pos (by exact hkeep), List.filter_cons_of_pos (by exact hkeep),
        scanAll_cons, ih]
    · have hdrop := mt beq_iff_eq.mp hname
      rw [List.filter_cons_of_neg (by exact hdrop), List.filter_cons_of_neg (by exact hdrop), ih]
      refine scanAll_of_separates hstore (fun d hd => ?_) s
      have hd := beq_iff_eq.mp (List.mem_filter.mp hd).2
      exact fun heq => hname (heq.symm.trans hd)

end Auditor

/-- However the scans of a fleet are mixed, they can come to their ends, and then the results and the
store are those of one scan after the other. There is one result for each request, in order, and the
results for a device are those of the requests for that device alone. -/
theorem interleaving_eq_scanAll (a : Auditor) (now : Moment) (force : Bool) (requests : List Device)
    (m : Memory) (c : List FleetTask × Memory)
    (hsteps : ReflTransGen (FleetStep Memory.store) (requests.map (a.task now force), m) c) :
    (∃ (audits : List DeviceAudit) (m' : Memory),
        ReflTransGen (FleetStep Memory.store) c (audits.map FleetTask.finished, m')) ∧
      ∀ (audits : List DeviceAudit) (m' : Memory), c = (audits.map FleetTask.finished, m') →
        (audits, m') = a.scanAll Memory.store now force requests m ∧
        audits.map DeviceAudit.device = requests.map Device.name ∧
        ∀ name, audits.filter (·.device == name) =
          (a.scanAll Memory.store now force (requests.filter (·.name == name)) m).1 := by
  refine ⟨exists_finished c.1 c.2, ?_⟩
  rintro audits m' rfl
  have hlocal : ∀ t ∈ requests.map (a.task now force), t.IsLocal := by
    intro t ht
    obtain ⟨device, -, rfl⟩ := List.mem_map.mp ht
    exact a.isLocal_task now force device
  have hsame := runTasks_of_steps Memory.separates hsteps hlocal
  rw [runTasks_finished, Auditor.runTasks_map_task] at hsame
  have haudits : audits = (a.scanAll Memory.store now force requests m).1 := congrArg Prod.fst hsame
  refine ⟨hsame, ?_, fun name => ?_⟩
  · rw [haudits, Auditor.map_device_scanAll]
  · rw [haudits, Auditor.filter_scanAll Memory.separates]

/-- Two scans of a device that fail, with one of another device begun before and ended in between. -/
theorem interleaving_eq_scanAll_failing :
    let a : Auditor := ⟨⟨[⟨1, "set \x7b\x7bX\x7d\x7d"⟩], [], [], [], []⟩, .empty⟩
    let now : Moment := ⟨2024, 5, 1, 12, 0, 0⟩
    let requests : List Device := [⟨"sw1", .els⟩, ⟨"sw2", .els⟩, ⟨"sw1", .nonEls⟩]
    let m : Memory := .addSnapshot .empty "sw1" "2024-05-01_0900" ["set a"]
    let failed : DeviceAudit :=
      ⟨"sw1", .error (.compile "sw1" (.undefinedVariable "X" "set \x7b\x7bX\x7d\x7d"))⟩
    let audits : List DeviceAudit := [failed, ⟨"sw2", .ok .noConfig⟩, failed]
    ReflTransGen (FleetStep Memory.store) (requests.map (a.task now true), m)
        (audits.map FleetTask.finished, m) ∧
      (audits, m) = a.scanAll Memory.store now true requests m ∧
      audits.filter (·.device == "sw2") =
        (a.scanAll Memory.store now true (requests.filter (·.name == "sw2")) m).1 := by
  intro a now requests m failed audits
  have hnone : ∀ d : String, ∀ t ∈ ([] : List FleetTask), t.device = d → t.IsDone :=
    fun _ _ ht => absurd ht List.not_mem_nil
  have hne : "sw1" ≠ "sw2" := by decide
  have hother : ∀ p, ∀ t ∈ [FleetTask.mk "sw1" p], t.device = "sw2" → t.IsDone := by
    intro p t ht hdevice
    obtain rfl := List.mem_singleton.mp ht
    exact absurd hdevice hne
  have hended : ∀ p, ∀ t ∈ [FleetTask.finished failed, FleetTask.mk "sw2" p],
      t.device = "sw1" → t.IsDone := by
    intro p
    simp only [List.forall_mem_cons]
    exact ⟨fun _ => FleetTask.isDone_finished failed, fun hdevice => absurd hdevice hne.symm,
      fun _ ht => absurd ht List.not_mem_nil⟩
  have hsteps : ReflTransGen (FleetStep Memory.store) (requests.map (a.task now true), m)
      (audits.map FleetTask.finished, m) := by
    -- The scan of `sw2` asks for its snapshots before the first scan of `sw1` has begun.
    refine .head (@FleetStep.ask _ _ [a.task now true ⟨"sw1", .els⟩] [_] "sw2" _ _ _ (hother _)) ?_
    refine .head (@FleetStep.ask _ _ [] [_, _] "sw1" _ _ _ (hnone _)) ?_
    refine .head (@FleetStep.ask _ _ [] [_, _] "sw1" _ _ _ (hnone _)) ?_
    refine .head (@FleetStep.ask _ _ [] [_, _] "sw1" _ _ _ (hnone _)) ?_
    refine .head (@FleetStep.count _ _ [] [_, _] "sw1" _ _ _ (hnone _)) ?_
    refine .head (@FleetStep.ask _ _ [.finished failed, _] [] "sw1" _ _ _ (hended _)) ?_
    refine .head (@FleetStep.ask _ _ [.finished failed] [_] "sw2" _ _ _ (hother _)) ?_
    refine .head (@FleetStep.count _ _ [.finished failed] [_] "sw2" _ _ _ (hother _)) ?_
    refine .head (@FleetStep.ask _ _ [.finished failed, _] [] "sw1" _ _ _ (hended _)) ?_
    refine .head (@FleetStep.ask _ _ [.finished failed, _] [] "sw1" _ _ _ (hended _)) ?_
    exact .head (@FleetStep.count _ _ [.finished failed, _] [] "sw1" _ _ _ (hended _)) .refl
  obtain ⟨hsame, -, hdevice⟩ :=
    (interleaving_eq_scanAll a now true requests m _ hsteps).2 audits m rfl
  exact ⟨hsteps, hsame, hdevice "sw2"⟩

end Conformance
