/-!
# Watch channels

A watch channel has one value, which its senders replace and its receivers wait for. Every receiver
remembers for itself what it has seen. A channel is closed once it has no sender left.
-/
namespace Conformance

/-- How far waiting for a value has come. -/
inductive Wait (α : Type) where
  | found (value : α)
  /-- There is no such value, and none will be sent any more. -/
  | closed
  | pending
  deriving DecidableEq, Repr

namespace Wait
variable {α : Type}

def isOver : Wait α → Bool
  | found _ | closed => true
  | pending => false

end Wait

/-- The operations of channels for values of one type. -/
structure WatchChannel (α : Type) where
  /-- What the senders and the receivers of a channel share. -/
  Shared : Type
  /-- What a receiver has for itself. -/
  Receiver : Type
  /-- A channel with a first value, one sender and one receiver. -/
  create : α → Shared × Receiver
  cloneSender : Shared → Shared
  dropSender : Shared → Shared
  /-- Replaces the value, and gives the one before. -/
  sendReplace : α → Shared → α × Shared
  /-- Makes a receiver from a sender. -/
  subscribe : Shared → Receiver × Shared
  cloneReceiver : Receiver → Shared → Receiver × Shared
  dropReceiver : Receiver → Shared → Shared
  /-- Starts to wait for a value with a property, and asks once whether this is over. -/
  waitFor : (α → Bool) → Receiver → Shared → Wait α × Receiver × Shared

namespace WatchChannel

/-- A value with its version, and how many senders there are. -/
structure Versioned (α : Type) where
  value : α
  version : Nat
  senders : Nat
  deriving DecidableEq, Repr

/-- Channels that count the versions of their value. A receiver remembers the version it has seen
last. -/
def versioned (α : Type) : WatchChannel α where
  Shared := Versioned α
  Receiver := Nat
  create value := (⟨value, 0, 1⟩, 0)
  cloneSender s := { s with senders := s.senders + 1 }
  dropSender s := { s with senders := s.senders - 1 }
  sendReplace value s := (s.value, { s with value, version := s.version + 1 })
  subscribe s := (s.version, s)
  cloneReceiver seen s := (seen, s)
  dropReceiver _ s := s
  waitFor p _ s :=
    (if p s.value then .found s.value else if s.senders = 0 then .closed else .pending, s.version, s)

end WatchChannel
end Conformance
