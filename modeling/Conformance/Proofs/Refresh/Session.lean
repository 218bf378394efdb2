import Conformance.Proofs.Refresh.History
import Mathlib.Data.List.Induction

/-!
# Sessions over a store in memory

Snapshots arrive, the clock is set, and devices are scanned, in any order. Every report in the store
was the answer to an earlier scan, and an answer that a report is up to date means that this report
covers the newest snapshot by its stamp, not that it is about it.
-/
namespace Conformance

structure Session where
  memory : Memory
  now : Moment

namespace Session

inductive Step where
  | addSnapshot (device id : String) (lines : List String)
  | setClock (now : Moment)
  | scan (device : Device) (force : Bool)
  deriving DecidableEq, Repr

variable (a : Auditor)

def answer (s : Session) (device : Device) (force : Bool) : Except ScanError Outcome :=
  ((a.scan s.now device force).run.run Memory.store s.memory).1

def step (s : Session) : Step → Session
  | .addSnapshot device id lines => { s with memory := s.memory.addSnapshot device id lines }
  | .setClock now => { s with now }
  | .scan device force =>
    { s with memory := ((a.scan s.now device force).run.run Memory.store s.memory).2.1 }

def run (s : Session) (steps : List Step) : Session :=
  steps.foldl (step a) s

def start (now : Moment) : Session :=
  ⟨.empty, now⟩

def snapshotIds (s : Session) (device : String) : List String :=
  (s.memory.of device).snapshots.keys

def newest? (s : Session) (device : String) : Option (Moment × String) :=
  Stamp.latest? (s.snapshotIds device)

/-- Snapshots come under identifiers that are new to their device. -/
def Admits (s : Session) : List Step → Prop
  | [] => True
  | .addSnapshot device id lines :: steps =>
    id ∉ s.snapshotIds device ∧ Admits (s.step a (.addSnapshot device id lines)) steps
  | x :: steps => Admits (s.step a x) steps

variable {a} {s : Session} {device : String}

theorem run_append (s : Session) (xs ys : List Step) :
    s.run a (xs ++ ys) = (s.run a xs).run a ys :=
  List.foldl_append

theorem run_concat (s : Session) (xs : List Step) (x : Step) :
    s.run a (xs ++ [x]) = (s.run a xs).step a x :=
  run_append s xs [x]

/-! ## Snapshots stay -/

theorem snapshotIds_step (s : Session) (x : Step) (device : String) :
    s.snapshotIds device ⊆ (s.step a x).snapshotIds device := by
  intro id hid
  cases x with
  | addSnapshot d id' lines => exact Memory.keys_subset_addSnapshot s.memory d id' lines device hid
  | setClock now => exact hid
  | scan d force =>
    simp only [step, snapshotIds, Memory.scan_snapshots]
    exact hid

theorem snapshotIds_run (s : Session) (steps : List Step) (device : String) :
    s.snapshotIds device ⊆ (s.run a steps).snapshotIds device := by
  induction steps using List.reverseRecOn with
  | nil => exact List.Subset.refl _
  | append_singleton steps x ih =>
    rw [run_concat]
    intro id hid
    exact snapshotIds_step _ x device (ih hid)

/-! ## Where reports come from -/

def IsAnswer (a : Auditor) (s : Session) (steps : List Step) (device : String)
    (r : StoredReport) : Prop :=
  ∃ earlier d force later n, steps = earlier ++ .scan d force :: later ∧ d.name = device ∧
    (s.run a earlier).answer a d force = .ok (.refreshed r n)

theorem IsAnswer.append {steps : List Step} {r : StoredReport} (h : IsAnswer a s steps device r)
    (more : List Step) : IsAnswer a s (steps ++ more) device r := by
  obtain ⟨earlier, d, force, later, n, rfl, hd, hanswer⟩ := h
  exact ⟨earlier, d, force, later ++ more, n, by simp, hd, hanswer⟩

/-- Every report that is there was there before the step, or is the answer to it. -/
theorem reports_step (s : Session) (x : Step) {id : String} {r : StoredReport}
    (h : ((s.step a x).memory.of device).reports.get? id = some r) :
    (s.memory.of device).reports.get? id = some r ∨
      id = r.id ∧ ∃ d force n, x = .scan d force ∧ d.name = device ∧
        s.answer a d force = .ok (.refreshed r n) := by
  cases x with
  | addSnapshot d id' lines =>
    rw [step, Memory.reports_addSnapshot] at h
    exact .inl h
  | setClock now => exact .inl h
  | scan d force =>
    have hscan := Memory.scan_scanned a s.now d force s.memory
    rw [step] at h
    generalize hrun : (a.scan s.now d force).run.run Memory.store s.memory = outcome at hscan h
    have hanswer : s.answer a d force = outcome.1 := congrArg Prod.fst hrun
    cases hscan with
    | noConfig _ => exact .inl h
    | upToDate _ _ _ _ _ => exact .inl h
    | uncompiled _ _ _ _ => exact .inl h
    | @refreshed snapshot _ found m' _ _ _ _ hkept =>
      by_cases hd : device = d.name
      · subst hd
        rw [hkept.reports, Catalog.get?_insert] at h
        split at h
        · next hid =>
          cases h
          exact .inr ⟨hid, d, force, _, rfl, rfl, hanswer⟩
        · rw [Memory.reportsToKeep] at h
          split at h
          · cases h
          · exact .inl h
      · rw [hkept.others device hd] at h
        exact .inl h

theorem isAnswer_of_get? (now : Moment) (steps : List Step) {id : String} {r : StoredReport}
    (h : (((start now).run a steps).memory.of device).reports.get? id = some r) :
    id = r.id ∧ IsAnswer a (start now) steps device r := by
  induction steps using List.reverseRecOn with
  | nil => cases h
  | append_singleton steps x ih =>
    rw [run_concat] at h
    rcases reports_step _ x h with h | ⟨hid, d, force, n, rfl, hd, hanswer⟩
    · exact ⟨(ih h).1, (ih h).2.append [x]⟩
    · exact ⟨hid, steps, d, force, [], n, rfl, hd, hanswer⟩

theorem newest?_of_refreshed {d : Device} {force : Bool} {r : StoredReport} {n : Nat}
    (h : s.answer a d force = .ok (.refreshed r n)) :
    ∃ t, s.newest? d.name = some (t, r.snapshot) := by
  have hscan := Memory.scan_scanned a s.now d force s.memory
  rw [answer] at h
  generalize (a.scan s.now d force).run.run Memory.store s.memory = outcome at hscan h
  cases hscan with
  | noConfig _ => cases h
  | upToDate _ _ _ _ _ => cases h
  | uncompiled _ _ _ _ => cases h
  | refreshed hsnapshot _ _ _ _ =>
    cases h
    exact ⟨_, hsnapshot⟩

/-- An answer that a report is up to date is one by the stamps of identifiers. -/
theorem newest?_of_upToDate {d : Device} {force : Bool} {r : StoredReport}
    (h : s.answer a d force = .ok (.upToDate r)) :
    ∃ newest id t, s.newest? d.name = some newest ∧ (s.memory.of d.name).reports.get? id = some r ∧
      Stamp.parse id = some t ∧ newest.1 ≤ t := by
  have hscan := Memory.scan_scanned a s.now d force s.memory
  rw [answer] at h
  generalize (a.scan s.now d force).run.run Memory.store s.memory = outcome at hscan h
  cases hscan with
  | noConfig _ => cases h
  | upToDate hsnapshot hreport _ hle hget =>
    cases h
    exact ⟨_, _, _, hsnapshot, hget, (Stamp.latest?_eq_some.mp hreport).2.1, hle⟩
  | uncompiled _ _ _ _ => cases h
  | refreshed _ _ _ _ _ => cases h

/-- A snapshot that was the newest is so until one that was not there yet takes its place. -/
theorem newest?_eq_or_not_mem {steps : List Step} {t : Moment} {id : String}
    {newest : Moment × String} (hthen : s.newest? device = some (t, id))
    (hnow : (s.run a steps).newest? device = some newest) :
    newest = (t, id) ∨ newest.2 ∉ s.snapshotIds device := by
  by_cases hmem : newest.2 ∈ s.snapshotIds device
  · obtain ⟨hid, hparse, hmax⟩ := Stamp.latest?_eq_some.mp hthen
    obtain ⟨-, hparse', hmax'⟩ := Stamp.latest?_eq_some.mp hnow
    have hle := hmax newest.2 hmem newest.1 hparse'
    have hge := hmax' id (snapshotIds_run s steps device hid) t hparse
    exact .inl (toLex.injective (le_antisymm hle hge))
  · exact .inr hmem

/-- The device is scanned, and then a snapshot arrives that was taken between the scanned one and
the scan. -/
def lateArrival : List Step :=
  [.addSnapshot "sw1" "sw1_2024-05-01_0900.conf" ["set a"], .scan ⟨"sw1", .els⟩ false,
    .addSnapshot "sw1" "sw1_2024-05-01_1000.conf" ["set b"]]

/-- A report that is up to date need not be about the newest snapshot. -/
theorem upToDate_of_lateArrival :
    ∃ r t, (start ⟨2024, 5, 1, 12, 0, 0⟩).Admits .blank lateArrival ∧
      ((start ⟨2024, 5, 1, 12, 0, 0⟩).run .blank lateArrival).answer .blank ⟨"sw1", .els⟩ false =
        .ok (.upToDate r) ∧
      r.snapshot = "sw1_2024-05-01_0900.conf" ∧
      ((start ⟨2024, 5, 1, 12, 0, 0⟩).run .blank lateArrival).newest? "sw1" =
        some (t, "sw1_2024-05-01_1000.conf") :=
  ⟨_, _, ⟨by decide, by decide, trivial⟩, rfl, rfl, rfl⟩

/-- The report of an answer that it is up to date was made by an earlier scan, about the snapshot
that was the newest then. That one still is the newest, unless a snapshot came since; and the
stamp of the newest one is not after the stamp of the report. -/
theorem upToDate_covers (a : Auditor) (now : Moment) (steps : List Step) (device : Device)
    (r : StoredReport)
    (h : ((start now).run a steps).answer a device false = .ok (.upToDate r)) :
    ∃ earlier d force later n t newest u,
      steps = earlier ++ .scan d force :: later ∧ d.name = device.name ∧
      ((start now).run a earlier).answer a d force = .ok (.refreshed r n) ∧
      ((start now).run a earlier).newest? device.name = some (t, r.snapshot) ∧
      ((start now).run a steps).newest? device.name = some newest ∧
      (newest = (t, r.snapshot) ∨
        newest.2 ∉ ((start now).run a earlier).snapshotIds device.name) ∧
      Stamp.parse r.id = some u ∧ newest.1 ≤ u := by
  obtain ⟨newest, id, u, hnewest, hget, hparse, hle⟩ := newest?_of_upToDate h
  obtain ⟨rfl, earlier, d, force, later, n, rfl, hd, hanswer⟩ := isAnswer_of_get? now steps hget
  obtain ⟨t, hthen⟩ := newest?_of_refreshed hanswer
  rw [hd] at hthen
  rw [run_append] at hnewest
  refine ⟨earlier, d, force, later, n, t, newest, u, rfl, hd, hanswer, hthen, ?_,
    newest?_eq_or_not_mem hthen hnewest, hparse, hle⟩
  rw [run_append]
  exact hnewest

/-- After a late arrival the newest snapshot is one that came since, and its stamp is before the
report's. -/
theorem upToDate_covers_lateArrival :
    ∃ r earlier d force later n t newest u,
      lateArrival = earlier ++ .scan d force :: later ∧ d.name = "sw1" ∧
      ((start ⟨2024, 5, 1, 12, 0, 0⟩).run .blank earlier).answer .blank d force =
        .ok (.refreshed r n) ∧
      ((start ⟨2024, 5, 1, 12, 0, 0⟩).run .blank earlier).newest? "sw1" = some (t, r.snapshot) ∧
      ((start ⟨2024, 5, 1, 12, 0, 0⟩).run .blank lateArrival).newest? "sw1" = some newest ∧
      (newest = (t, r.snapshot) ∨
        newest.2 ∉ ((start ⟨2024, 5, 1, 12, 0, 0⟩).run .blank earlier).snapshotIds "sw1") ∧
      Stamp.parse r.id = some u ∧ newest.1 ≤ u :=
  ⟨_, upToDate_covers .blank ⟨2024, 5, 1, 12, 0, 0⟩ lateArrival ⟨"sw1", .els⟩ _ rfl⟩

end Session
end Conformance
