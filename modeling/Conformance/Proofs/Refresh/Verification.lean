import Conformance.Proofs.Refresh.Audit

/-!
# Verifying templates

To compile each variant of the templates beforehand tells which scans will fail to compile, and how:
a scan selects one of the variants, and compiles it in the same order.
-/
namespace Conformance

variable {σ : Type} {store : Store σ} {s : σ} {a : Auditor} {now : Moment} {device : Device}
  {force : Bool} {lines : List String} {cause : CompileError}

theorem Library.mem_verify {library : Library} {mapping : Mapping} {augmentation : Augmentation}
    {result : Except CompileError Nat} : (augmentation, result) ∈ library.verify mapping ↔
      result = (library.compileWith mapping augmentation).map (·.mandatory.length) := by
  rw [verify, List.mem_map]
  constructor
  · rintro ⟨_, -, ⟨⟩⟩
    rfl
  · rintro rfl
    exact ⟨augmentation, by cases augmentation <;> simp [Augmentation.all], rfl⟩

namespace Auditor

theorem audit_eq_error : a.audit device lines = .error cause ↔
    (augmentationFor device lines, .error cause) ∈ a.library.verify a.mapping := by
  rw [audit_eq, Library.mem_verify]
  cases a.library.compileWith a.mapping (augmentationFor device lines) with
  | error cause' => simp [Except.map, bind, Except.bind, eq_comm]
  | ok compiled => simp [Except.map, bind, Except.bind, pure, Except.pure]

theorem audit_eq_ok {n : Nat}
    (h : (augmentationFor device lines, .ok n) ∈ a.library.verify a.mapping) :
    ∃ compiled, a.library.compile a.mapping ⟨device.family, runsRouting lines⟩ = .ok compiled ∧
      compiled.mandatory.length = n ∧ a.audit device lines = .ok (augmentationFor device lines,
        findDeviations compiled.mandatory compiled.optional lines) := by
  rw [Library.mem_verify] at h
  cases hcompiled : a.library.compileWith a.mapping (augmentationFor device lines) with
  | error cause =>
    rw [hcompiled] at h
    cases h
  | ok compiled =>
    rw [hcompiled] at h
    cases h
    refine ⟨compiled, hcompiled, rfl, ?_⟩
    rw [audit_eq, hcompiled, ← Library.augmentation_of_compileWith hcompiled]
    rfl

theorem exists_comesToAudit_of_error (hstore : store.KeepsOnReading) {name : String}
    (h : ((a.scan now device force).run.run store s).1 = .error (.compile name cause)) :
    name = device.name ∧ ∃ snapshot lines,
      store.ComesToAudit device.name force snapshot lines s ∧
        a.audit device lines = .error cause := by
  have hscan := scan_scanning hstore a now device force s
  generalize (a.scan now device force).run.run store s = outcome at hscan h
  cases hscan with
  | unlisted _ => cases h
  | noConfig _ => cases h
  | unreadable _ _ _ _ => cases h
  | upToDate _ _ _ _ => cases h
  | refreshed _ _ _ => cases h
  | failed hin hdue hrefresh =>
    cases hrefresh with
    | unloaded _ => cases h
    | undiscarded _ _ _ => cases h
    | unsaved _ _ _ _ => cases h
    | uncompiled hload haudit =>
      cases h
      exact ⟨rfl, _, _, ⟨⟨_, hin, hdue⟩, hload⟩, haudit⟩

/-- Verifying the templates predicts scans: a scan fails to compile exactly where it comes to audit
lines whose variant is listed with that failure. If no variant fails, no scan does, and a variant is
listed with the number of the patterns that scans with it work with. -/
theorem verify_predicts (hstore : store.KeepsOnReading) (a : Auditor) (now : Moment)
    (device : Device) (force : Bool) (s : σ) :
    (∀ name cause,
      ((a.scan now device force).run.run store s).1 = .error (.compile name cause) ↔
        name = device.name ∧ ∃ snapshot lines,
          store.ComesToAudit device.name force snapshot lines s ∧
          (augmentationFor device lines, .error cause) ∈ a.library.verify a.mapping) ∧
    ((∀ entry ∈ a.library.verify a.mapping, ∃ n, entry.2 = .ok n) → ∀ name cause,
      ((a.scan now device force).run.run store s).1 ≠ .error (.compile name cause)) ∧
    ∀ snapshot lines n, store.ComesToAudit device.name force snapshot lines s →
      (augmentationFor device lines, .ok n) ∈ a.library.verify a.mapping →
      ∃ compiled,
        a.library.compile a.mapping ⟨device.family, runsRouting lines⟩ = .ok compiled ∧
        compiled.mandatory.length = n ∧
        (a.scan now device force).run.run store s =
          (conclude now device force snapshot (augmentationFor device lines,
            findDeviations compiled.mandatory compiled.optional lines)).run.run store s := by
  have hiff : ∀ name cause,
      ((a.scan now device force).run.run store s).1 = .error (.compile name cause) ↔
        name = device.name ∧ ∃ snapshot lines,
          store.ComesToAudit device.name force snapshot lines s ∧
          (augmentationFor device lines, .error cause) ∈ a.library.verify a.mapping := by
    intro name cause
    constructor
    · intro h
      obtain ⟨hname, snapshot, lines, hcomes, haudit⟩ := exists_comesToAudit_of_error hstore h
      exact ⟨hname, snapshot, lines, hcomes, audit_eq_error.mp haudit⟩
    · rintro ⟨rfl, snapshot, lines, hcomes, hentry⟩
      rw [run_scan_uncompiled hstore hcomes (audit_eq_error.mpr hentry)]
  refine ⟨hiff, ?_, ?_⟩
  · intro hall name cause h
    obtain ⟨-, snapshot, lines, -, hentry⟩ := (hiff name cause).mp h
    obtain ⟨n, hn⟩ := hall _ hentry
    cases hn
  · intro snapshot lines n hcomes hentry
    obtain ⟨compiled, hcompiled, hlength, haudit⟩ := audit_eq_ok hentry
    exact ⟨compiled, hcompiled, hlength, run_scan_audited hstore hcomes haudit⟩

/-- Only the routing variant fails, and with it the scan of a device with routing. -/
theorem verify_predicts_routing :
    let a : Auditor := ⟨⟨[⟨1, "set a"⟩], [], [], [⟨3, "set \x7b\x7bX\x7d\x7d"⟩], []⟩, .empty⟩
    let m := (Memory.addSnapshot .empty "sw1" "2024-05-01_0900" ["set protocols bgp"]).addSnapshot
      "sw2" "2024-05-01_0900" ["set b"]
    let now : Moment := ⟨2024, 5, 1, 12, 0, 0⟩
    let cause : CompileError := .undefinedVariable "X" "set \x7b\x7bX\x7d\x7d"
    a.library.verify a.mapping = [(.els, .ok 1), (.nonEls, .ok 1), (.routing, .error cause)] ∧
      ((a.scan now ⟨"sw1", .els⟩ true).run.run Memory.store m).1 = .error (.compile "sw1" cause) ∧
      ∃ compiled, a.library.compile a.mapping ⟨.els, false⟩ = .ok compiled ∧
        compiled.mandatory.length = 1 ∧
        (a.scan now ⟨"sw2", .els⟩ true).run.run Memory.store m =
          (conclude now ⟨"sw2", .els⟩ true (⟨2024, 5, 1, 9, 0, 0⟩, "2024-05-01_0900")
            (.els, findDeviations compiled.mandatory compiled.optional ["set b"])).run.run
              Memory.store m := by
  intro a m now cause
  have hverify : a.library.verify a.mapping =
      [(.els, .ok 1), (.nonEls, .ok 1), (.routing, .error cause)] := by decide +kernel
  have hcomes : ∀ name lines, (m.of name).snapshots.get? "2024-05-01_0900" = some lines →
      Stamp.latest? (m.of name).snapshots.keys =
        some (⟨2024, 5, 1, 9, 0, 0⟩, "2024-05-01_0900") →
      Memory.store.ComesToAudit name true (⟨2024, 5, 1, 9, 0, 0⟩, "2024-05-01_0900") lines m := by
    intro name lines hlines hlatest
    refine ⟨⟨Stamp.latest? (m.of name).reports.keys, ?_, .inl rfl⟩, Memory.loadSnapshot_eq hlines⟩
    rw [Memory.latestIn_store, hlatest]
  refine ⟨hverify, ?_, ?_⟩
  · apply ((verify_predicts Memory.keepsOnReading a now ⟨"sw1", .els⟩ true m).1 "sw1" cause).mpr
    refine ⟨rfl, _, ["set protocols bgp"], hcomes _ _ (by decide +kernel) (by decide +kernel), ?_⟩
    rw [hverify]
    decide +kernel
  · refine (verify_predicts Memory.keepsOnReading a now ⟨"sw2", .els⟩ true m).2.2 _ ["set b"] 1
      (hcomes _ _ (by decide +kernel) (by decide +kernel)) ?_
    rw [hverify]
    decide +kernel

end Auditor
end Conformance
