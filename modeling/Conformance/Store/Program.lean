import Conformance.Store.Counters
import Conformance.Store.Request

/-!
# Programs over a store

A program asks a store one request after the other, each depending on the answers before it, and
counts events on the way. To run it in one go and to mix it with other programs, request by request,
are two readings of the same program.
-/
namespace Conformance

inductive Program (α : Type) where
  | done (result : α)
  | ask (r : Request) (next : Except StoreError r.Answer → Program α)
  | count (event : Count) (next : Program α)

namespace Program
variable {α β σ : Type}

def bind : Program α → (α → Program β) → Program β
  | done a, f => f a
  | ask r next, f => ask r fun answer => (next answer).bind f
  | count e next, f => count e (next.bind f)

instance : Monad Program where
  pure := done
  bind := bind

/-- Runs the program against a store: its result, the store after it, and what it counted. -/
def run (store : Store σ) : Program α → σ → α × σ × List Count
  | done a, s => (a, s, [])
  | ask r next, s =>
    let (answer, s) := store r s
    (next answer).run store s
  | count e next, s =>
    let (a, s, counted) := next.run store s
    (a, s, e :: counted)

end Program
end Conformance
