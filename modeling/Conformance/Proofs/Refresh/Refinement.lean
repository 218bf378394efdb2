import Conformance.Proofs.Refresh.History
import Conformance.Proofs.Store.Refinement

/-!
# Stores in file trees refine stores in memory

Whatever is done to two stores that begin empty, one in a file tree and one in memory, both come to
the same results, until the system fails. The tree mirrors what is in memory from one operation to
the next, through all requests of a scan.
-/
namespace Conformance

def ScanError.IsSystemFailure : ScanError → Prop
  | .compile _ _ => False
  | .store cause => cause.IsSystemFailure

instance (cause : ScanError) : Decidable cause.IsSystemFailure :=
  match cause with
  | .compile _ _ => isFalse id
  | .store cause => inferInstanceAs (Decidable cause.IsSystemFailure)

namespace Directories

open Program (counting)

variable {d : Directories} {t t' : FileTree} {m m' : Memory} {α β : Type} {a : Auditor}
  {now : Moment} {device : Device} {force : Bool}

/-! ## Scans -/

/-- A run on a file tree comes out as one in memory, unless the system fails. -/
def Alike (d : Directories) (x : Except ScanError α × FileTree × List Count)
    (y : Except ScanError α × Memory × List Count) : Prop :=
  (∃ cause, x.1 = .error cause ∧ cause.IsSystemFailure) ∨
    x.1 = y.1 ∧ x.2.2 = y.2.2 ∧ Mirrors d x.2.1 y.2.1

theorem Alike.counting {x : Except ScanError α × FileTree × List Count}
    {y : Except ScanError α × Memory × List Count} (h : Alike d x y) (counted : List Count) :
    Alike d (counting counted x) (counting counted y) :=
  h.imp_right fun h => ⟨h.1, congrArg (counted ++ ·) h.2.1, h.2.2⟩

theorem alike_pure (h : Mirrors d t m) (b : α) :
    Alike d ((pure b : Scan α).run.run d.store t) ((pure b : Scan α).run.run Memory.store m) :=
  .inr ⟨rfl, rfl, h⟩

theorem alike_bind {p : Scan α} {f : α → Scan β}
    (hp : Alike d (p.run.run d.store t) (p.run.run Memory.store m))
    (hf : ∀ b m', (p.run.run Memory.store m).1 = .ok b → (p.run.run Memory.store m).2.1 = m' →
      Mirrors d (p.run.run d.store t).2.1 m' →
      Alike d ((f b).run.run d.store (p.run.run d.store t).2.1) ((f b).run.run Memory.store m')) :
    Alike d ((p >>= f).run.run d.store t) ((p >>= f).run.run Memory.store m) := by
  rcases hx : p.run.run d.store t with ⟨result, t', counted⟩
  rcases hy : p.run.run Memory.store m with ⟨result', m', counted'⟩
  rw [hx, hy] at hp hf
  rcases hp with ⟨cause, rfl, hcause⟩ | ⟨heq, rfl, hmirrors⟩
  · rw [Scan.run_bind_error f hx]
    exact .inl ⟨cause, rfl, hcause⟩
  · obtain rfl : result = result' := heq
    cases result with
    | error cause =>
      rw [Scan.run_bind_error f hx, Scan.run_bind_error f hy]
      exact .inr ⟨rfl, rfl, hmirrors⟩
    | ok b =>
      rw [Scan.run_bind_ok f hx, Scan.run_bind_ok f hy]
      exact (hf b m' rfl rfl hmirrors).counting counted

theorem alike_ask (h : Mirrors d t m) {r : Request} (hr : r.IsAdmitted) :
    Alike d ((Scan.ask r).run.run d.store t) ((Scan.ask r).run.run Memory.store m) := by
  rcases h.request r hr with ⟨cause, hfail, hcause⟩ | ⟨hanswer, hmirrors⟩
  · refine .inl ⟨.store cause, ?_, hcause⟩
    show (d.store r t).1.mapError ScanError.store = _
    rw [hfail]
    rfl
  · exact .inr ⟨congrArg (Except.mapError ScanError.store) hanswer, rfl, hmirrors⟩

theorem alike_count (h : Mirrors d t m) (metric : Metric) (amount : Nat) :
    Alike d ((Scan.count metric amount).run.run d.store t)
      ((Scan.count metric amount).run.run Memory.store m) :=
  .inr ⟨rfl, rfl, h⟩

theorem alike_latest (h : Mirrors d t m) {name : String} (hname : Settings.Accepts name) :
    Alike d ((Auditor.latest name).run.run d.store t)
      ((Auditor.latest name).run.run Memory.store m) := by
  unfold Auditor.latest
  refine alike_bind (alike_ask h (r := .snapshotIds name) hname) fun snapshots m' _ _ h' => ?_
  exact alike_bind (alike_ask h' (r := .reportIds name) hname) fun reports m'' _ _ h'' =>
    alike_pure h'' _

theorem alike_save (h : Mirrors d t m) (hdevice : Settings.Accepts device.name)
    (snapshot : Moment × String) (found : Augmentation × DeviationReport) (n : Nat) :
    Alike d ((Auditor.save now device snapshot found n).run.run d.store t)
      ((Auditor.save now device snapshot found n).run.run Memory.store m) := by
  have hadmitted : (Request.saveReport (Auditor.reportOn now device snapshot found)).IsAdmitted :=
    ⟨hdevice, now.latest snapshot.1, rfl⟩
  exact alike_bind (alike_ask h hadmitted) fun _ m' _ _ h' => alike_pure h' _

theorem alike_refresh (h : Mirrors d t m) (hdevice : Settings.Accepts device.name)
    {snapshot : Moment × String} (hid : Path.IsName snapshot.2) :
    Alike d ((a.refresh now device force snapshot).run.run d.store t)
      ((a.refresh now device force snapshot).run.run Memory.store m) := by
  unfold Auditor.refresh
  refine alike_bind (alike_ask h (r := .loadSnapshot device.name snapshot.2) ⟨hdevice, hid⟩)
    fun lines m₁ _ _ h₁ => ?_
  cases a.audit device lines with
  | error cause => exact .inr ⟨rfl, rfl, h₁⟩
  | ok found =>
    refine alike_bind (alike_count h₁ _ _) fun _ m₂ _ _ h₂ => ?_
    refine alike_bind (alike_count h₂ _ _) fun _ m₃ _ _ h₃ => ?_
    cases force with
    | false => exact alike_save h₃ hdevice snapshot found 0
    | true =>
      exact alike_bind (alike_ask h₃ (r := .discardReports device.name) hdevice)
        fun n m₄ _ _ h₄ => alike_save h₄ hdevice snapshot found n

theorem alike_decide (h : Mirrors d t m) (hdevice : Settings.Accepts device.name) :
    Alike d
      ((a.decide now device force (Stamp.latest? (m.of device.name).snapshots.keys)
        (Stamp.latest? (m.of device.name).reports.keys)).run.run d.store t)
      ((a.decide now device force (Stamp.latest? (m.of device.name).snapshots.keys)
        (Stamp.latest? (m.of device.name).reports.keys)).run.run Memory.store m) := by
  cases hlatest : Stamp.latest? (m.of device.name).snapshots.keys with
  | none => exact alike_pure h _
  | some snapshot =>
    obtain ⟨contents, hsnapshot⟩ := Memory.exists_get?_of_latest? hlatest
    rcases Auditor.isDue_or force snapshot (Stamp.latest? (m.of device.name).reports.keys) with
      hdue | ⟨rfl, report, hreport, hle⟩
    · rw [Auditor.decide_due a now device hdue]
      exact alike_refresh h hdevice (h.snapshot hsnapshot).2.1
    · obtain ⟨r, hget⟩ := Memory.exists_get?_of_latest? hreport
      rw [hreport, Auditor.decide_upToDate hle]
      refine alike_bind (alike_ask h ?_) fun kept m' _ _ h' => alike_pure h' _
      exact ⟨hdevice, (h.report hget).2⟩

/-- A scan of a file tree comes out as one in memory, unless the system fails. -/
theorem alike_scan (h : Mirrors d t m) (hdevice : Settings.Accepts device.name) :
    Alike d ((a.scan now device force).run.run d.store t)
      ((a.scan now device force).run.run Memory.store m) := by
  have hlatest := Auditor.run_latest (s := m) Memory.keepsOnReading device.name
  rw [Memory.latestIn_store] at hlatest
  unfold Auditor.scan
  refine alike_bind (alike_latest h hdevice) fun found m' hfound hm' h' => ?_
  rw [hlatest] at hfound hm'
  obtain rfl := Except.ok.inj hfound
  obtain rfl : m = m' := hm'
  refine alike_bind (alike_decide h' hdevice) fun outcome m' _ _ h'' => ?_
  exact alike_bind (alike_count h'' _ _) fun _ m' _ _ h₃ => alike_pure h₃ _

end Directories

/-! ## Operations -/

/-- What can be done to a store: besides requests and scans, snapshots arrive. -/
inductive Operation where
  | addSnapshot (device id : String) (contents : List String)
  | ask (r : Request)
  | scan (a : Auditor) (now : Moment) (device : Device) (force : Bool)

namespace Operation

inductive Result where
  | added (answer : Except StoreError Unit)
  | answered (r : Request) (answer : Except StoreError r.Answer)
  | scanned (answer : Except ScanError Outcome) (counted : List Count)

/-- Devices have names that settings accept. Snapshots that arrive are named as files are, without
a point in front, and consist of lines. -/
def IsAdmitted : Operation → Prop
  | addSnapshot device id contents => Settings.Accepts device ∧ Path.IsName id ∧
    Directories.isSnapshotName id = true ∧ ∀ line ∈ contents, Text.IsLine line
  | ask r => r.IsAdmitted
  | scan _ _ device _ => Settings.Accepts device.name

def onFiles (d : Directories) (t : FileTree) : Operation → Result × FileTree
  | addSnapshot device id contents =>
    (.added (d.addSnapshot t device id contents).1, (d.addSnapshot t device id contents).2)
  | ask r => (.answered r (d.store r t).1, (d.store r t).2)
  | scan a now device force =>
    let (answer, t, counted) := (a.scan now device force).run.run d.store t
    (.scanned answer counted, t)

def inMemory (m : Memory) : Operation → Result × Memory
  | addSnapshot device id contents => (.added (.ok ()), m.addSnapshot device id contents)
  | ask r => (.answered r (Memory.store r m).1, (Memory.store r m).2)
  | scan a now device force =>
    let (answer, m, counted) := (a.scan now device force).run.run Memory.store m
    (.scanned answer counted, m)

def results {σ : Type} (perform : σ → Operation → Result × σ) : σ → List Operation → List Result
  | _, [] => []
  | s, x :: xs => (perform s x).1 :: results perform (perform s x).2 xs

def Result.FailsBySystem : Result → Prop
  | added answer => SystemFails answer
  | answered _ answer => SystemFails answer
  | scanned answer _ => ∃ cause, answer = .error cause ∧ cause.IsSystemFailure

instance (result : Result) : Decidable result.FailsBySystem :=
  match result with
  | .added answer => inferInstanceAs (Decidable (SystemFails answer))
  | .answered _ answer => inferInstanceAs (Decidable (SystemFails answer))
  | .scanned (.ok _) _ => isFalse nofun
  | .scanned (.error cause) _ => decidable_of_iff cause.IsSystemFailure
    ⟨fun h => ⟨cause, rfl, h⟩, fun ⟨_, heq, h⟩ => Except.error.inj heq ▸ h⟩

variable {d : Directories} {t : FileTree} {m : Memory} {x : Operation} {xs : List Operation}

theorem mirrors_step (h : d.Mirrors t m) (hx : x.IsAdmitted) :
    (x.onFiles d t).1.FailsBySystem ∨
      (x.onFiles d t).1 = (x.inMemory m).1 ∧ d.Mirrors (x.onFiles d t).2 (x.inMemory m).2 := by
  cases x with
  | addSnapshot device id contents =>
    obtain ⟨hdevice, hid, hname, hlines⟩ := hx
    refine (d.addSnapshot_or t device id contents).imp_right fun hadd => ?_
    exact ⟨congrArg Result.added hadd,
      h.addSnapshot hdevice.isName hid hname hlines (Prod.ext hadd rfl)⟩
  | ask r =>
    refine (h.request r hx).imp_right fun hanswer => ?_
    exact ⟨congrArg (Result.answered r) hanswer.1, hanswer.2⟩
  | scan a now device force =>
    refine (Directories.alike_scan h hx).imp_right fun hscan => ?_
    exact ⟨congrArg₂ Result.scanned hscan.1 hscan.2.1, hscan.2.2⟩

theorem results_of_mirrors (h : d.Mirrors t m) (hxs : ∀ x ∈ xs, x.IsAdmitted)
    (hsystem : ∀ result ∈ results (onFiles d) t xs, ¬ result.FailsBySystem) :
    results (onFiles d) t xs = results inMemory m xs := by
  induction xs generalizing t m with
  | nil => rfl
  | cons x xs ih =>
    rw [List.forall_mem_cons] at hxs
    rw [results, List.forall_mem_cons] at hsystem
    obtain ⟨hresult, hmirrors⟩ := (mirrors_step h hxs.1).resolve_left hsystem.1
    rw [results, results, hresult, ih hmirrors hxs.2 hsystem.2]

end Operation

namespace Directories

def IsVacant (d : Directories) (t : FileTree) : Prop :=
  ∀ entry ∈ t.entries, ∀ root ∈ d.roots, ¬ FileTree.IsShelf (t.target root) entry.1

theorem IsVacant.shelves {d : Directories} {t : FileTree} {root : Path} (h : d.IsVacant t)
    (hroot : root ∈ d.roots) : t.Shelves root fun _ _ => none := by
  constructor
  · intro device name
    rw [FileTree.at?_of_ne_nil (by simp), List.lookup_eq_none_iff.mpr]
    · rfl
    · intro entry hentry
      rw [bne_iff_ne]
      rintro heq
      exact h entry hentry root hroot ⟨device, name, heq.symm⟩
  · intro device name hcontent
    exact absurd rfl hcontent

theorem mirrors_empty {d : Directories} {t : FileTree} (hapart : d.AreApart t)
    (hvacant : d.IsVacant t) : d.Mirrors t .empty where
  apart := hapart
  snapshots := hvacant.shelves d.snapshots_mem_roots
  reports := hvacant.shelves d.reports_mem_roots
  snapshot := nofun
  report := nofun

end Directories

/-- Operations on a store in a file tree, which begins without artifacts, come to the same results
as on a store in memory, which begins empty, as long as the system does not fail. -/
theorem results_onFiles (d : Directories) (t : FileTree) (xs : List Operation)
    (hapart : d.AreApart t) (hvacant : d.IsVacant t) (hxs : ∀ x ∈ xs, x.IsAdmitted)
    (hsystem : ∀ result ∈ Operation.results (Operation.onFiles d) t xs, ¬ result.FailsBySystem) :
    Operation.results (Operation.onFiles d) t xs =
      Operation.results Operation.inMemory .empty xs :=
  Operation.results_of_mirrors (Directories.mirrors_empty hapart hvacant) hxs hsystem

/-- A snapshot arrives and is scanned; of another device there is none. -/
def shortSession : List Operation :=
  [.addSnapshot "sw1" "2024-05-01_0900" ["hostname sw1"],
    .scan .blank ⟨2024, 5, 1, 12, 0, 0⟩ ⟨"sw1", .els⟩ true,
    .ask (.loadSnapshot "sw2" "2024-05-01_0900")]

/-- On a tree without anything in it, the system does not fail in the course of this session. -/
theorem results_onFiles_shortSession :
    (⟨"snapshots", "reports"⟩ : Directories).AreApart ⟨[], []⟩ ∧
    (⟨"snapshots", "reports"⟩ : Directories).IsVacant ⟨[], []⟩ ∧
    (∀ x ∈ shortSession, x.IsAdmitted) ∧
    (∀ result ∈ Operation.results (Operation.onFiles ⟨"snapshots", "reports"⟩) ⟨[], []⟩ shortSession,
      ¬ result.FailsBySystem) ∧
    Operation.results (Operation.onFiles ⟨"snapshots", "reports"⟩) ⟨[], []⟩ shortSession =
      Operation.results Operation.inMemory .empty shortSession := by
  have hapart : (⟨"snapshots", "reports"⟩ : Directories).AreApart ⟨[], []⟩ :=
    ⟨by decide +kernel, by decide +kernel, by decide +kernel⟩
  have hvacant : (⟨"snapshots", "reports"⟩ : Directories).IsVacant ⟨[], []⟩ := nofun
  have hsw1 : Settings.Accepts "sw1" := by decide +kernel
  have hsw2 : Settings.Accepts "sw2" := by decide +kernel
  have hname : Path.IsName "2024-05-01_0900" := by decide +kernel
  have hadmitted : ∀ x ∈ shortSession, x.IsAdmitted := by
    intro x hx
    simp only [shortSession, List.mem_cons, List.not_mem_nil, or_false] at hx
    rcases hx with rfl | rfl | rfl
    · exact ⟨hsw1, hname, by decide +kernel, by decide +kernel⟩
    · exact hsw1
    · exact ⟨hsw2, hname⟩
  have hsystem : ∀ result ∈ Operation.results (Operation.onFiles ⟨"snapshots", "reports"⟩) ⟨[], []⟩
      shortSession, ¬ result.FailsBySystem := by decide +kernel
  exact ⟨hapart, hvacant, hadmitted, hsystem,
    results_onFiles ⟨"snapshots", "reports"⟩ ⟨[], []⟩ shortSession hapart hvacant hadmitted hsystem⟩

end Conformance
