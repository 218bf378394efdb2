import Conformance.Proofs.Store.Memory
import Conformance.Proofs.Time.Stamp

/-!
# The history of reports

Reports of a device pile up under identifiers of their own until a forced scan clears them away. A
report that a scan adds has a stamp after all stamps before it, so it takes the place of none.
-/
namespace Conformance

namespace Auditor

variable {now : Moment} {device : Device} {snapshot : Moment × String}
  {found : Augmentation × DeviationReport}

def blank : Auditor :=
  ⟨⟨[], [], [], [], []⟩, .empty⟩

def reportMoment (now : Moment) (snapshot : Moment × String) : Moment :=
  (now.latest snapshot.1).truncateToMinute

theorem parse_reportOn (hreal : now.isReal = true) (hyear : now.year ≤ 9999)
    (hsnapshot : Stamp.parse snapshot.2 = some snapshot.1) :
    Stamp.parse (reportOn now device snapshot found).id = some (reportMoment now snapshot) := by
  obtain ⟨hr, hy, -⟩ := (Stamp.isStamped_of_parse hsnapshot).latest hreal hyear
  exact Stamp.parse_idOf device.name hr hy

theorem le_reportMoment (hreal : now.isReal = true) (hyear : now.year ≤ 9999)
    (hsnapshot : Stamp.parse snapshot.2 = some snapshot.1) :
    snapshot.1 ≤ reportMoment now snapshot :=
  ((Stamp.isStamped_of_parse hsnapshot).latest hreal hyear).2.2

/-- Where a refresh is due without force, all reports come before the one that it makes. -/
theorem lt_reportMoment_of_isDue (hreal : now.isReal = true) (hyear : now.year ≤ 9999)
    (hsnapshot : Stamp.parse snapshot.2 = some snapshot.1) {ids : List String}
    (hdue : IsDue false snapshot (Stamp.latest? ids)) {id : String} {t : Moment} (hid : id ∈ ids)
    (ht : Stamp.parse id = some t) : t < reportMoment now snapshot := by
  have hall : ∀ e, Stamp.latest? ids = some e → e.1 < snapshot.1 := by
    rcases hdue with h | h
    · cases h
    · exact h
  exact lt_of_lt_of_le (Stamp.lt_of_latest?_lt hall hid ht) (le_reportMoment hreal hyear hsnapshot)

theorem reportOn_id_not_mem (hreal : now.isReal = true) (hyear : now.year ≤ 9999)
    (hsnapshot : Stamp.parse snapshot.2 = some snapshot.1) {ids : List String}
    (hdue : IsDue false snapshot (Stamp.latest? ids)) :
    (reportOn now device snapshot found).id ∉ ids := by
  intro hmem
  have hlt := lt_reportMoment_of_isDue hreal hyear hsnapshot hdue hmem
    (parse_reportOn hreal hyear hsnapshot)
  exact lt_irrefl _ hlt

end Auditor

namespace Memory

structure ScanEffect (m m' : Memory) (device : String) (force : Bool)
    (result : Except ScanError Outcome) : Prop where
  unchanged : (∀ r n, result ≠ .ok (.refreshed r n)) → m' = m
  added : ∀ r n, result = .ok (.refreshed r n) → force = false →
    n = 0 ∧ r.id ∉ (m.of device).reports.keys ∧
      ∀ id, (m'.of device).reports.get? id =
        if id = r.id then some r else (m.of device).reports.get? id
  replaced : ∀ r n, result = .ok (.refreshed r n) → force = true →
    n = (m.of device).reports.keys.length ∧ (m'.of device).reports.entries = [(r.id, r)]
  snapshots : ∀ d, (m'.of d).snapshots = (m.of d).snapshots
  others : ∀ d, d ≠ device → (m'.of d).reports = (m.of d).reports

theorem ScanEffect.refl (m : Memory) (device : String) (force : Bool)
    {result : Except ScanError Outcome} (h : ∀ r n, result ≠ .ok (.refreshed r n)) :
    ScanEffect m m device force result where
  unchanged _ := rfl
  added r n hr := absurd hr (h r n)
  replaced r n hr := absurd hr (h r n)
  snapshots _ := rfl
  others _ _ := rfl

theorem Refreshed.scanEffect {m m' : Memory} {device : String} {force : Bool} {r : StoredReport}
    (h : Refreshed m m' device force r)
    (hnew : force = false → r.id ∉ (m.of device).reports.keys) :
    ScanEffect m m' device force
      (.ok (.refreshed r (if force then (m.of device).reports.size else 0))) where
  unchanged hnot := absurd rfl (hnot r _)
  added r' n heq hforce := by
    subst hforce
    cases heq
    refine ⟨rfl, hnew rfl, ?_⟩
    intro id
    rw [h.reports]
    exact Catalog.get?_insert ..
  replaced r' n heq hforce := by
    subst hforce
    cases heq
    refine ⟨Catalog.length_keys.symm, ?_⟩
    rw [h.reports]
    rfl
  snapshots := h.snapshots
  others d hd := congrArg Artifacts.reports (h.others d hd)

/-- A scan adds a report under a new identifier, or with force puts one report in the place of all,
or changes nothing; and it never touches snapshots or other devices. -/
theorem scan_effect (a : Auditor) (m : Memory) (now : Moment) (device : Device) (force : Bool)
    (hreal : now.isReal = true) (hyear : now.year ≤ 9999) :
    ScanEffect m ((a.scan now device force).run.run store m).2.1 device.name force
      ((a.scan now device force).run.run store m).1 := by
  have hscan := scan_scanned a now device force m
  generalize (a.scan now device force).run.run store m = outcome at hscan ⊢
  cases hscan with
  | noConfig _ => exact .refl m _ _ (by simp)
  | upToDate _ _ _ _ _ => exact .refl m _ _ (by simp)
  | uncompiled _ _ _ _ => exact .refl m _ _ (by simp)
  | refreshed hsnapshot hdue _ _ hkept =>
    apply hkept.scanEffect
    intro hforce
    subst hforce
    exact Auditor.reportOn_id_not_mem hreal hyear (Stamp.latest?_eq_some.mp hsnapshot).2.1 hdue

/-- A report that was saved under a name without a stamp goes too. -/
theorem scan_effect_forced :
    ∃ m r, m = (Memory.addSnapshot .empty "sw1" "sw1_2024-05-01_0900.conf" ["set a"]).withReports
        "sw1" (.ofList [("old", ⟨"sw1", "", "", .els, ⟨["set b"], [], .missingOnly⟩⟩)]) ∧
      ((Auditor.blank.scan ⟨2024, 5, 1, 12, 0, 0⟩ ⟨"sw1", .els⟩ true).run.run store m).1 =
        .ok (.refreshed r 1) ∧
      (((Auditor.blank.scan ⟨2024, 5, 1, 12, 0, 0⟩ ⟨"sw1", .els⟩ true).run.run store m).2.1.of
        "sw1").reports.entries = [(r.id, r)] :=
  have effect := scan_effect .blank _ ⟨2024, 5, 1, 12, 0, 0⟩ ⟨"sw1", .els⟩ true rfl (by decide)
  ⟨_, _, rfl, rfl, (effect.replaced _ _ rfl rfl).2⟩

end Memory
end Conformance
