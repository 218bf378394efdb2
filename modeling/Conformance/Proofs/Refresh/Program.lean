import Conformance.Refresh

/-!
# Running scans

What a program does to a store is what its parts do, one after the other. A scan that fails stops
where it fails: the store stays as it is there, and what was counted stays counted.
-/
namespace Conformance

namespace Program

variable {σ α β : Type}

/-- The outcome of a run, after `counted` was counted before it. -/
def counting (counted : List Count) (outcome : α × σ × List Count) : α × σ × List Count :=
  (outcome.1, outcome.2.1, counted ++ outcome.2.2)

theorem run_bind (store : Store σ) (p : Program α) (f : α → Program β) (s : σ) :
    (p.bind f).run store s =
      counting (p.run store s).2.2 ((f (p.run store s).1).run store (p.run store s).2.1) := by
  induction p generalizing s with
  | done a => rfl
  | ask r next ih => exact ih (store r s).1 (store r s).2
  | count e next ih =>
    have hrest := ih s
    rw [bind, run, hrest]
    rfl

end Program

namespace Scan

open Program (counting)

variable {σ α β : Type} {store : Store σ} {s s' : σ} {p : Scan α} {counted : List Count}

theorem run_bind_ok {a : α} (f : α → Scan β) (h : p.run.run store s = (.ok a, s', counted)) :
    (p >>= f).run.run store s = counting counted ((f a).run.run store s') := by
  have hbind : (p >>= f).run = p.run.bind (ExceptT.bindCont f) := rfl
  rw [hbind, Program.run_bind, h]
  rfl

theorem run_bind_error {cause : ScanError} (f : α → Scan β)
    (h : p.run.run store s = (.error cause, s', counted)) :
    (p >>= f).run.run store s = (.error cause, s', counted) := by
  have hbind : (p >>= f).run = p.run.bind (ExceptT.bindCont f) := rfl
  rw [hbind, Program.run_bind, h]
  show (_, _, counted ++ []) = (_, _, counted)
  rw [List.append_nil]
  rfl

theorem run_bind_congr {q : Scan α} (f : α → Scan β) (h : p.run.run store s = q.run.run store s) :
    (p >>= f).run.run store s = (q >>= f).run.run store s := by
  have hp : (p >>= f).run = p.run.bind (ExceptT.bindCont f) := rfl
  have hq : (q >>= f).run = q.run.bind (ExceptT.bindCont f) := rfl
  rw [hp, hq, Program.run_bind, Program.run_bind, h]

theorem run_ask (store : Store σ) (s : σ) (r : Request) : (ask r).run.run store s =
    ((store r s).1.mapError .store, (store r s).2, []) :=
  rfl

theorem run_ask_of_ok {r : Request} {answer : r.Answer} (h : (store r s).1 = .ok answer) :
    (ask r).run.run store s = (.ok answer, (store r s).2, []) := by
  rw [run_ask, h]
  rfl

theorem run_ask_ok {r : Request} {answer : r.Answer} (f : r.Answer → Scan β)
    (h : (store r s).1 = .ok answer) :
    (ask r >>= f).run.run store s = (f answer).run.run store (store r s).2 :=
  run_bind_ok f (run_ask_of_ok h)

theorem run_ask_error {r : Request} {cause : StoreError} (f : r.Answer → Scan β)
    (h : (store r s).1 = .error cause) :
    (ask r >>= f).run.run store s = (.error (.store cause), (store r s).2, []) := by
  have hask := run_ask store s r
  rw [h] at hask
  exact run_bind_error f hask

theorem run_count (metric : Metric) (amount : Nat) (f : PUnit → Scan β) :
    (count metric amount >>= f).run.run store s =
      counting [⟨metric, amount⟩] ((f ()).run.run store s) := rfl

end Scan
end Conformance
