import Conformance.Proofs.Refresh.Course
import Conformance.Proofs.Store.Separation

/-!
# Scans of different devices

A scan asks for nothing but its own device. Where the store keeps devices apart, scans of different
devices may be run in either order.
-/
namespace Conformance

variable {σ α β : Type} {store : Store σ} {device other : String}

namespace Program

inductive IsOn (device : String) : Program α → Prop where
  | done (a : α) : IsOn device (.done a)
  | ask {r : Request} {next : Except StoreError r.Answer → Program α} : r.device = device →
    (∀ answer, IsOn device (next answer)) → IsOn device (.ask r next)
  | count (event : Count) {next : Program α} : IsOn device next → IsOn device (.count event next)

theorem IsOn.bind {p : Program α} {f : α → Program β} (hp : IsOn device p)
    (hf : ∀ a, IsOn device (f a)) : IsOn device (p.bind f) := by
  induction hp with
  | done a => exact hf a
  | ask hr _ ih => exact .ask hr ih
  | count event _ ih => exact .count event ih

theorem run_ask (store : Store σ) (r : Request) (next : Except StoreError r.Answer → Program α)
    (s : σ) : (ask r next).run store s = (next (store r s).1).run store (store r s).2 := rfl

/-- A request for another device may be made before the program or after it. -/
theorem IsOn.run_request {p : Program α} (hp : IsOn device p) (hstore : store.Separates)
    {r : Request}
    (hr : r.device ≠ device) (s : σ) :
    (store r (p.run store s).2.1).1 = (store r s).1 ∧
      p.run store (store r s).2 =
        ((p.run store s).1, (store r (p.run store s).2.1).2, (p.run store s).2.2) := by
  induction hp generalizing s with
  | done a => exact ⟨rfl, rfl⟩
  | @ask r' next hr' _ ih =>
    obtain ⟨hanswer, hstate⟩ := hstore r r' s (hr' ▸ hr)
    obtain ⟨hanswer', -⟩ := hstore r' r s (hr' ▸ hr.symm)
    obtain ⟨hlater, hrun⟩ := ih (store r' s).1 (store r' s).2
    rw [run_ask, run_ask, hanswer', ← hstate]
    exact ⟨hlater.trans hanswer, hrun⟩
  | count event _ ih =>
    obtain ⟨hanswer, hrun⟩ := ih s
    rw [run, run, hrun]
    exact ⟨hanswer, rfl⟩

theorem IsOn.run_run {p : Program α} {q : Program β} (hp : IsOn device p) (hq : IsOn other q)
    (hstore : store.Separates) (hne : other ≠ device) (s : σ) :
    q.run store (p.run store s).2.1 =
      ((q.run store s).1, (p.run store (q.run store s).2.1).2.1, (q.run store s).2.2) := by
  induction hq generalizing s with
  | done a => rfl
  | @ask r next hr _ ih =>
    obtain ⟨hanswer, hrun⟩ := hp.run_request hstore (hr ▸ hne) s
    have hlater := ih (store r s).1 (store r s).2
    rw [hrun] at hlater
    rw [run_ask, run_ask, hanswer]
    exact hlater
  | count event _ ih =>
    rw [run, run, ih s]

end Program

namespace Scan

open Program (IsOn)

theorem isOn_bind {x : Scan α} {f : α → Scan β} (hx : IsOn device x.run)
    (hf : ∀ a, IsOn device (f a).run) : IsOn device (x >>= f).run := by
  have hbind : (x >>= f).run = x.run.bind (ExceptT.bindCont f) := rfl
  rw [hbind]
  refine hx.bind fun answer => ?_
  cases answer with
  | error cause => exact .done _
  | ok a => exact hf a

theorem isOn_pure (a : α) : IsOn device (pure a : Scan α).run :=
  .done _

theorem isOn_ask {r : Request} (hr : r.device = device) : IsOn device (ask r).run :=
  .ask hr fun _ => .done _

theorem isOn_count (metric : Metric) (amount : Nat) : IsOn device (count metric amount).run :=
  .count _ (.done _)

end Scan

namespace Auditor

open Program (IsOn)

theorem isOn_latest (device : String) : IsOn device (latest device).run :=
  Scan.isOn_bind (Scan.isOn_ask rfl) fun _ => Scan.isOn_bind (Scan.isOn_ask rfl) fun _ =>
    Scan.isOn_pure _

theorem isOn_save (now : Moment) (device : Device) (snapshot : Moment × String)
    (found : Augmentation × DeviationReport) (n : Nat) :
    IsOn device.name (save now device snapshot found n).run :=
  Scan.isOn_bind (Scan.isOn_ask rfl) fun _ => Scan.isOn_pure _

theorem isOn_refresh (a : Auditor) (now : Moment) (device : Device) (force : Bool)
    (snapshot : Moment × String) : IsOn device.name (a.refresh now device force snapshot).run := by
  refine Scan.isOn_bind (Scan.isOn_ask rfl) fun lines => ?_
  cases a.audit device lines with
  | error cause => exact Scan.isOn_bind (Scan.isOn_count _ _) fun _ => .done _
  | ok found =>
    refine Scan.isOn_bind (Scan.isOn_count _ _) fun _ => ?_
    refine Scan.isOn_bind (Scan.isOn_count _ _) fun _ => ?_
    have hsave := isOn_save now device snapshot found
    cases force with
    | true => exact Scan.isOn_bind (Scan.isOn_ask rfl) hsave
    | false => exact Scan.isOn_bind (Scan.isOn_pure (0 : Nat)) hsave

theorem isOn_decide (a : Auditor) (now : Moment) (device : Device) (force : Bool)
    (snapshot report : Option (Moment × String)) :
    IsOn device.name (a.decide now device force snapshot report).run := by
  unfold decide
  split
  · exact Scan.isOn_pure _
  · split
    · exact Scan.isOn_bind (Scan.isOn_ask rfl) fun _ => Scan.isOn_pure _
    · exact isOn_refresh a now device force _

theorem isOn_scan (a : Auditor) (now : Moment) (device : Device) (force : Bool) :
    IsOn device.name (a.scan now device force).run := by
  refine Scan.isOn_bind (isOn_latest device.name) fun newest => ?_
  refine Scan.isOn_bind (isOn_decide a now device force newest.1 newest.2) fun outcome => ?_
  exact Scan.isOn_bind (Scan.isOn_count _ _) fun _ => Scan.isOn_pure _

end Auditor
end Conformance
