import Conformance.Proofs.Catalog
import Conformance.Store.Memory

/-!
# Requests for different devices

Every request is about one device. A store in memory keeps the devices apart: a request changes
nothing for another device, and depends on nothing of it.
-/
namespace Conformance

def Request.device : Request → String
  | snapshotIds device => device
  | loadSnapshot device _ => device
  | reportIds device => device
  | loadReport device _ => device
  | saveReport r => r.device
  | discardReports device => device

/-- Requests for different devices may be made in either order. -/
def Store.Separates {σ : Type} (store : Store σ) : Prop :=
  ∀ (r r' : Request) (s : σ), r.device ≠ r'.device →
    (store r (store r' s).2).1 = (store r s).1 ∧
      (store r (store r' s).2).2 = (store r' (store r s).2).2

namespace Memory

variable {m m' : Memory} {r r' : Request} {other : String}

theorem of_congr {device : String} (h : m.get? device = m'.get? device) :
    m.of device = m'.of device := by
  rw [of, h, of]

theorem get?_withReports_of_ne {device : String} (h : other ≠ device)
    (reports : Catalog StoredReport) : (m.withReports device reports).get? other = m.get? other :=
  Catalog.get?_insert_of_ne h

theorem get?_withReports_self (m : Memory) (device : String) (reports : Catalog StoredReport) :
    (m.withReports device reports).get? device = some { m.of device with reports } :=
  Catalog.get?_insert_self m device _

theorem get?_store_of_ne (h : other ≠ r.device) (m : Memory) :
    (store r m).2.get? other = m.get? other := by
  cases r with
  | saveReport report => exact get?_withReports_of_ne h _
  | discardReports device =>
    rw [store]
    split
    · exact get?_withReports_of_ne h _
    · rfl
  | _ => rfl

theorem answer_congr (h : m.get? r.device = m'.get? r.device) :
    (store r m).1 = (store r m').1 := by
  have hof := of_congr h
  cases r with
  | discardReports device =>
    have hcontains : m.contains device = m'.contains device := congrArg Option.isSome h
    simp only [store, hcontains]
    split
    · exact congrArg (fun kept : Artifacts => Except.ok kept.reports.size) hof
    · rfl
  | saveReport report => rfl
  | snapshotIds device => exact congrArg (fun kept : Artifacts => Except.ok kept.snapshots.keys) hof
  | reportIds device => exact congrArg (fun kept : Artifacts => Except.ok kept.reports.keys) hof
  | loadSnapshot device id =>
    exact congrArg (fun kept : Artifacts => found device .snapshot id (kept.snapshots.get? id)) hof
  | loadReport device id =>
    exact congrArg (fun kept : Artifacts => found device .report id (kept.reports.get? id)) hof

/-- What is kept for the device after a request depends on nothing but what was kept before. -/
theorem get?_store_congr (h : m.get? r.device = m'.get? r.device) :
    (store r m).2.get? r.device = (store r m').2.get? r.device := by
  have hof := of_congr h
  cases r with
  | saveReport report =>
    refine (get?_withReports_self m _ _).trans (Eq.trans ?_ (get?_withReports_self m' _ _).symm)
    exact congrArg (fun kept : Artifacts =>
      some { kept with reports := kept.reports.insert report.id report }) hof
  | discardReports device =>
    have hcontains : m.contains device = m'.contains device := congrArg Option.isSome h
    simp only [store, hcontains]
    split
    · refine (get?_withReports_self m _ _).trans (Eq.trans ?_ (get?_withReports_self m' _ _).symm)
      exact congrArg (fun kept : Artifacts => some { kept with reports := .empty }) hof
    · exact h
  | _ => exact h

theorem separates : Store.Separates store := by
  intro r r' m hne
  have hown : (store r' m).2.get? r.device = m.get? r.device := get?_store_of_ne hne m
  refine ⟨answer_congr hown, Catalog.ext_get? fun device => ?_⟩
  by_cases hr : device = r.device
  · subst hr
    rw [get?_store_congr hown, get?_store_of_ne hne]
  · rw [get?_store_of_ne hr]
    by_cases hr' : device = r'.device
    · subst hr'
      exact get?_store_congr (get?_store_of_ne (Ne.symm hne) m).symm
    · rw [get?_store_of_ne hr', get?_store_of_ne hr', get?_store_of_ne hr]

end Memory
end Conformance
