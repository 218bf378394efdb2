import Conformance.Proofs.Refresh.Preview
import Conformance.Proofs.Refresh.Refinement
import Conformance.Proofs.Store.Limits

/-!
# Sessions within the limits

What a scan asks for can be told from the store in memory that runs beside it. If its paths keep
within the limits of trees, the system does not fail, and it comes to the same as in memory.
-/
namespace Conformance

variable {σ τ α β : Type} {store : Store σ} {store' : Store τ} {s : σ} {u : τ} {r : Request}

/-! ## Requests -/

/-- Two stores that answer alike whatever a run asks for come to the same result. The invariant is
that they agree, as long as requests are of this kind. -/
theorem Program.run_alike {agree : σ → τ → Prop} {kind : Request → Prop}
    (hstep : ∀ s u r, agree s u → kind r →
      (store r s).1 = (store' r u).1 ∧ agree (store r s).2 (store' r u).2)
    (p : Program α) (h : agree s u) (hkind : ∀ r ∈ p.requests store' u, kind r) :
    (p.run store s).1 = (p.run store' u).1 ∧ (p.run store s).2.2 = (p.run store' u).2.2 ∧
      agree (p.run store s).2.1 (p.run store' u).2.1 := by
  induction p generalizing s u with
  | done a => exact ⟨rfl, rfl, h⟩
  | ask r next ih =>
    rw [requests, List.forall_mem_cons] at hkind
    obtain ⟨hanswer, hagree⟩ := hstep s u r h hkind.1
    simp only [run, hanswer]
    exact ih _ hagree hkind.2
  | count event next ih =>
    obtain ⟨hresult, hcounted, hagree⟩ := ih h hkind
    exact ⟨hresult, congrArg (event :: ·) hcounted, hagree⟩

theorem Scan.mem_requests_bind {p : Scan α} {f : α → Scan β}
    (h : r ∈ (p >>= f).run.requests store s) :
    r ∈ p.run.requests store s ∨ ∃ a s', r ∈ (f a).run.requests store s' := by
  rcases hp : p.run.run store s with ⟨cause | a, s', counted⟩
  · rw [requests_bind_error f hp] at h
    exact .inl h
  · rw [requests_bind_ok f hp, List.mem_append] at h
    exact h.imp_right fun h => ⟨a, s', h⟩

theorem Scan.mem_requests_ask_bind {r' : Request} {f : r'.Answer → Scan β}
    (h : r ∈ (Scan.ask r' >>= f).run.requests store s) :
    r = r' ∨ ∃ answer s', r ∈ (f answer).run.requests store s' :=
  (Scan.mem_requests_bind h).imp_left List.mem_singleton.mp

namespace Auditor

variable {a : Auditor} {now : Moment} {device : Device} {force : Bool} {n : Nat}
  {snapshot : Moment × String} {found : Augmentation × DeviationReport}

theorem mem_requests_save (h : r ∈ (save now device snapshot found n).run.requests store s) :
    r = .saveReport (reportOn now device snapshot found) := by
  rcases Scan.mem_requests_ask_bind h with rfl | ⟨_, _, h⟩
  · rfl
  · cases h

theorem mem_requests_refresh
    (h : r ∈ (a.refresh now device force snapshot).run.requests store s) :
    r = .loadSnapshot device.name snapshot.2 ∨ r = .discardReports device.name ∨
      ∃ found, r = .saveReport (reportOn now device snapshot found) := by
  rcases Scan.mem_requests_ask_bind h with rfl | ⟨lines, s', h⟩
  · exact .inl rfl
  right
  cases haudit : a.audit device lines with
  | error cause =>
    rw [haudit] at h
    cases h
  | ok found =>
    rw [haudit] at h
    change r ∈ (keep now device force snapshot found).run.requests store s' at h
    cases force with
    | false => exact .inr ⟨found, mem_requests_save h⟩
    | true =>
      rcases Scan.mem_requests_ask_bind h with rfl | ⟨n, s'', h⟩
      · exact .inl rfl
      · exact .inr ⟨found, mem_requests_save h⟩

/-- A scan asks for the listings of its device, and then for its newest artifacts or for a refresh. -/
theorem mem_requests_scan (hstore : store.KeepsOnReading) {snapshot report : Option (Moment × String)}
    (hin : latestIn store device.name s = .ok (snapshot, report))
    (h : r ∈ (a.scan now device force).run.requests store s) :
    r ∈ [.snapshotIds device.name, .reportIds device.name, .discardReports device.name] ∨
      (∃ newest, report = some newest ∧ r = .loadReport device.name newest.2) ∨
      ∃ newest, snapshot = some newest ∧ (r = .loadSnapshot device.name newest.2 ∨
        ∃ found, r = .saveReport (reportOn now device newest found)) := by
  rw [requests_scan hstore hin, List.mem_append] at h
  rcases h with h | h
  · exact .inl (List.mem_append_left [_] h)
  cases snapshot with
  | none => cases h
  | some snapshot =>
    rcases isDue_or force snapshot report with hdue | ⟨rfl, newest, rfl, hle⟩
    · rw [decide_due a now device hdue] at h
      rcases mem_requests_refresh h with rfl | rfl | hsave
      · exact .inr (.inr ⟨snapshot, rfl, .inl rfl⟩)
      · exact .inl (by simp)
      · exact .inr (.inr ⟨snapshot, rfl, .inr hsave⟩)
    · rw [decide_upToDate hle] at h
      rcases Scan.mem_requests_ask_bind h with rfl | ⟨_, _, h⟩
      · exact .inr (.inl ⟨newest, rfl, rfl⟩)
      · cases h

end Auditor

/-! ## Stamps of one size -/

theorem Stamp.utf8ByteSize_format {t : Moment} (hreal : t.isReal = true)
    (hyear : 0 ≤ t.year ∧ t.year ≤ 9999) : (Stamp.format t).utf8ByteSize = Stamp.shape.length := by
  rw [Text.utf8ByteSize_eq_length fun c hc => ?_, (Stamp.moment?_format hreal hyear).2.1]
  have hmarks : ∀ mark ∈ ['-', '_', '+'], mark.toNat < 128 := by
    simp only [List.forall_mem_cons]
    exact ⟨by decide, by decide, by decide, List.forall_mem_nil _⟩
  by_cases hmark : c ∈ ['-', '_', '+']
  · exact hmarks c hmark
  · cases hdigit : c.isDigit with
    | true =>
      simp only [Char.isDigit, Bool.and_eq_true, decide_eq_true_eq] at hdigit
      have hnine : c.val.toNat ≤ 57 := hdigit.2
      exact Nat.lt_of_le_of_lt hnine (by decide)
    | false => exact absurd hc (Stamp.not_mem_format hdigit hmark t)

namespace Directories

open FileTree (IsWithinLimits)

variable {d : Directories} {t : FileTree} {m : Memory} {p : Path} {name : String}
  {a : Auditor} {now : Moment} {device : Device} {force : Bool}

theorem isWithinLimits_unfinishedName (hname : Settings.Accepts name) {later : Moment}
    (hnow : now.isReal = true) (hyear : 0 ≤ now.year ∧ now.year ≤ 9999)
    (hlater : later.isReal = true) (hyear' : 0 ≤ later.year ∧ later.year ≤ 9999)
    (hlimits : IsWithinLimits
      (p.join (unfinishedName (StoredReport.idOf name (Stamp.format now))))) :
    IsWithinLimits (p.join (unfinishedName (StoredReport.idOf name (Stamp.format later)))) := by
  have hisName : ∀ u, Path.IsName (unfinishedName (StoredReport.idOf name (Stamp.format u))) := by
    intro u
    exact isName_unfinishedName (slash_not_mem_id_of_isAdmitted
      (r := ⟨name, Stamp.format u, "", .els, ⟨[], [], .clean⟩⟩) ⟨hname, u, rfl⟩)
  refine hlimits.join_mono (hisName later) (hisName now) (fun hnul => ?_) ?_
  · -- There is none in stamps, so it is in what the two names share.
    have hstamp := Stamp.not_mem_format (c := '\x00') (by decide) (by decide)
    rw [toList_unfinishedName, StoredReport.idOf] at hnul ⊢
    simp only [String.toList_append, List.mem_cons, List.mem_append, hstamp, or_false] at hnul ⊢
    exact hnul
  · simp only [unfinishedName, StoredReport.idOf, String.utf8ByteSize_append,
      Stamp.utf8ByteSize_format hnow hyear, Stamp.utf8ByteSize_format hlater hyear', le_refl]

/-! ## Scans -/

/-- Whatever a scan asks for has a path within the limits, if the path that a report on it would be
written to has. -/
theorem Serves.requests_scan (h : d.Serves t m) (hdevice : Settings.Accepts device.name)
    (hnow : now.isReal = true) (hyear : 0 ≤ now.year ∧ now.year ≤ 9999)
    (hsnapshots : IsWithinLimits (d.snapshotsOf device.name))
    (hreport : IsWithinLimits ((d.reportsOf device.name).join
      (unfinishedName (StoredReport.idOf device.name (Stamp.format now)))))
    {r : Request} (hr : r ∈ (a.scan now device force).run.requests Memory.store m) :
    r.IsAdmitted ∧ r.IsWithinLimits d := by
  have hreports : IsWithinLimits (d.reportsOf device.name) :=
    hreport.of_join (isName_unfinishedName (slash_not_mem_id_of_isAdmitted
      (r := ⟨device.name, Stamp.format now, "", .els, ⟨[], [], .clean⟩⟩) ⟨hdevice, now, rfl⟩))
      (Path.join_ne_empty hdevice.isName _)
  rcases Auditor.mem_requests_scan Memory.keepsOnReading (Memory.latestIn_store m device.name) hr with
    hlisting | ⟨newest, hnewest, rfl⟩ | ⟨newest, hnewest, rfl | ⟨found, rfl⟩⟩
  · simp only [List.mem_cons, List.not_mem_nil, or_false] at hlisting
    rcases hlisting with rfl | rfl | rfl
    · exact ⟨hdevice, hsnapshots⟩
    · exact ⟨hdevice, hreports⟩
    · exact ⟨hdevice, hreports⟩
  · obtain ⟨r, hget⟩ := Memory.exists_get?_of_latest? hnewest
    exact ⟨⟨hdevice, (h.mirrors.report hget).2⟩, h.report hget⟩
  · obtain ⟨contents, hget⟩ := Memory.exists_get?_of_latest? hnewest
    exact ⟨⟨hdevice, (h.mirrors.snapshot hget).2.1⟩, h.snapshot hget⟩
  · have hstamp := Stamp.isStamped_of_parse (Stamp.latest?_eq_some.mp hnewest).2.1
    obtain ⟨hlater, hyear', -⟩ := hstamp.latest hnow hyear.2
    exact ⟨⟨hdevice, _, rfl⟩,
      isWithinLimits_unfinishedName hdevice hnow hyear hlater hyear' hreport⟩

end Directories

theorem Memory.not_isSystemFailure_of_scan (a : Auditor) (now : Moment) (device : Device)
    (force : Bool) (m : Memory) {cause : ScanError}
    (h : ((a.scan now device force).run.run Memory.store m).1 = .error cause) :
    ¬ cause.IsSystemFailure := by
  have hscan := Memory.scan_scanned a now device force m
  generalize (a.scan now device force).run.run Memory.store m = course at h hscan
  cases hscan with
  | uncompiled _ _ _ _ =>
    cases h
    exact id
  | _ => cases h

/-! ## Operations -/

namespace Operation

variable {d : Directories} {t : FileTree} {m : Memory} {x : Operation} {xs : List Operation}

/-- What an operation is about has paths within the limits, and the clock a moment for a stamp. -/
def IsWithinLimits (d : Directories) : Operation → Prop
  | addSnapshot device id _ => FileTree.IsWithinLimits ((d.snapshotsOf device).join id)
  | ask r => r.IsWithinLimits d
  | scan _ now device _ => now.isReal = true ∧ (0 ≤ now.year ∧ now.year ≤ 9999) ∧
    FileTree.IsWithinLimits (d.snapshotsOf device.name) ∧
    FileTree.IsWithinLimits ((d.reportsOf device.name).join
      (Directories.unfinishedName (StoredReport.idOf device.name (Stamp.format now))))

/-- One operation: the system does not fail, the results are the same, and others can follow. -/
theorem serves_step (h : d.Serves t m) (hx : x.IsAdmitted) (hlimits : x.IsWithinLimits d) :
    ¬ (x.onFiles d t).1.FailsBySystem ∧ (x.onFiles d t).1 = (x.inMemory m).1 ∧
      d.Serves (x.onFiles d t).2 (x.inMemory m).2 := by
  cases x with
  | addSnapshot device id contents =>
    obtain ⟨hdevice, hid, hname, hlines⟩ := hx
    obtain ⟨hadd, hserves⟩ := h.addSnapshot hdevice.isName hid hname hlines hlimits
    exact ⟨Directories.not_systemFails_of_ok hadd, congrArg Result.added hadd, hserves⟩
  | ask r =>
    obtain ⟨hanswer, hserves⟩ := h.request hx hlimits
    exact ⟨h.not_systemFails hx hlimits, congrArg (Result.answered r) hanswer, hserves⟩
  | scan a now device force =>
    obtain ⟨hnow, hyear, hsnapshots, hreport⟩ := hlimits
    obtain ⟨hresult, hcounted, hserves⟩ := Program.run_alike
      (fun _ _ r hserves (hr : r.IsAdmitted ∧ r.IsWithinLimits d) => hserves.request hr.1 hr.2)
      (a.scan now device force).run h
      fun r hr => h.requests_scan hx hnow hyear hsnapshots hreport hr
    refine ⟨?_, congrArg₂ Result.scanned hresult hcounted, hserves⟩
    rintro ⟨cause, hfail, hcause⟩
    exact Memory.not_isSystemFailure_of_scan a now device force m (hresult.symm.trans hfail) hcause

theorem results_of_serves (h : d.Serves t m) (hxs : ∀ x ∈ xs, x.IsAdmitted)
    (hlimits : ∀ x ∈ xs, x.IsWithinLimits d) :
    (∀ result ∈ results (onFiles d) t xs, ¬ result.FailsBySystem) ∧
      results (onFiles d) t xs = results inMemory m xs := by
  induction xs generalizing t m with
  | nil => exact ⟨nofun, rfl⟩
  | cons x xs ih =>
    rw [List.forall_mem_cons] at hxs hlimits
    obtain ⟨hsystem, hresult, hserves⟩ := serves_step h hxs.1 hlimits.1
    obtain ⟨hsystems, hresults⟩ := ih hserves hxs.2 hlimits.2
    exact ⟨List.forall_mem_cons.mpr ⟨hsystem, hsystems⟩, by rw [results, results, hresult, hresults]⟩

end Operation

/-- As long as all paths keep within the limits and no file is in the way, the system never fails on
a store that begins without artifacts, and it comes to the same results as one in memory. -/
theorem results_of_isWithinLimits {d : Directories} {t : FileTree} {xs : List Operation}
    (hapart : d.AreApart t) (hvacant : d.IsVacant t) (hfree : d.IsFree t)
    (hxs : ∀ x ∈ xs, x.IsAdmitted) (hlimits : ∀ x ∈ xs, x.IsWithinLimits d) :
    (∀ result ∈ Operation.results (Operation.onFiles d) t xs, ¬ result.FailsBySystem) ∧
      Operation.results (Operation.onFiles d) t xs =
        Operation.results Operation.inMemory .empty xs :=
  Operation.results_of_serves ⟨Directories.mirrors_empty hapart hvacant, hfree, nofun, nofun⟩ hxs
    hlimits

example : ∀ result ∈ Operation.results (Operation.onFiles ⟨"snapshots", "reports"⟩) ⟨[], []⟩
    [.addSnapshot "sw1" "2024-05-01_0900" ["hostname sw1"],
      .scan .blank ⟨2024, 5, 1, 12, 0, 0⟩ ⟨"sw1", .els⟩ true], ¬ result.FailsBySystem := by
  have hsw1 : Settings.Accepts "sw1" := by decide +kernel
  have hvacant : (⟨"snapshots", "reports"⟩ : Directories).IsVacant ⟨[], []⟩ := nofun
  refine (results_of_isWithinLimits ⟨by decide +kernel, by decide +kernel, by decide +kernel⟩ hvacant
    (Directories.isFree_of_no_files rfl fun q _ => by cases q <;> nofun) ?_ ?_).1
  · simp only [List.forall_mem_cons]
    exact ⟨⟨hsw1, by decide +kernel, by decide +kernel, by decide +kernel⟩, hsw1, nofun⟩
  · simp only [List.forall_mem_cons, Operation.IsWithinLimits]
    exact ⟨by decide +kernel, ⟨rfl, by decide, by decide +kernel, by decide +kernel⟩, nofun⟩

end Conformance
