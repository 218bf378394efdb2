import Conformance.Channel

/-!
# Shutting down

Coordinators tell signals to stop, all over one channel: coordinators are its senders, signals its
receivers. What is sent is that the shutdown was triggered. A signal waits for this, and also stops
when the channel is closed.
-/
namespace Conformance

structure Shutdown (w : WatchChannel Bool) where
  channel : w.Shared
  /-- For each coordinator, in order of creation, whether it is still there. -/
  coordinators : List Bool
  /-- The signals in order of creation, `none` for one that is gone. -/
  signals : List (Option w.Receiver)

namespace Shutdown

inductive Step where
  /-- Makes a signal. -/
  | subscribe (coordinator : Nat)
  /-- Makes another coordinator. -/
  | clone (coordinator : Nat)
  | trigger (coordinator : Nat)
  | drop (coordinator : Nat)
  /-- Makes another signal. -/
  | cloneSignal (signal : Nat)
  | dropSignal (signal : Nat)
  /-- Asks whether a signal completes. -/
  | poll (signal : Nat)
  deriving DecidableEq, Repr

inductive Reply where
  | nothing
  /-- The number of what was made. -/
  | made (number : Nat)
  | triggered
  | polled (completes : Bool)
  deriving DecidableEq, Repr

variable {w : WatchChannel Bool}

/-- One coordinator and no signal. -/
def create (w : WatchChannel Bool) : Shutdown w :=
  let (channel, receiver) := w.create false
  ⟨w.dropReceiver receiver channel, [true], []⟩

/-- The start on channels that count versions. -/
def start : Shutdown (.versioned Bool) :=
  create _

def isAlive (s : Shutdown w) (coordinator : Nat) : Bool :=
  (s.coordinators[coordinator]?).getD false

def signal? (s : Shutdown w) (signal : Nat) : Option w.Receiver :=
  s.signals[signal]?.join

/-- Takes a step. Who is gone does nothing. -/
def step (s : Shutdown w) : Step → Reply × Shutdown w
  | .subscribe c =>
    if s.isAlive c then
      let (receiver, channel) := w.subscribe s.channel
      (.made s.signals.length, { s with channel, signals := s.signals ++ [some receiver] })
    else (.nothing, s)
  | .clone c =>
    if s.isAlive c then
      let channel := w.cloneSender s.channel
      (.made s.coordinators.length, { s with channel, coordinators := s.coordinators ++ [true] })
    else (.nothing, s)
  | .trigger c =>
    if s.isAlive c then
      let (_, channel) := w.sendReplace true s.channel
      (.triggered, { s with channel })
    else (.nothing, s)
  | .drop c =>
    if s.isAlive c then
      let channel := w.dropSender s.channel
      (.nothing, { s with channel, coordinators := s.coordinators.set c false })
    else (.nothing, s)
  | .cloneSignal n =>
    match s.signal? n with
    | some receiver =>
      let (copy, channel) := w.cloneReceiver receiver s.channel
      (.made s.signals.length, { s with channel, signals := s.signals ++ [some copy] })
    | none => (.nothing, s)
  | .dropSignal n =>
    match s.signal? n with
    | some receiver =>
      let channel := w.dropReceiver receiver s.channel
      (.nothing, { s with channel, signals := s.signals.set n none })
    | none => (.nothing, s)
  | .poll n =>
    match s.signal? n with
    | some receiver =>
      let (wait, receiver, channel) := w.waitFor id receiver s.channel
      (.polled wait.isOver, { s with channel, signals := s.signals.set n (some receiver) })
    | none => (.nothing, s)

/-- Takes steps in order. -/
def run (s : Shutdown w) : List Step → List Reply
  | [] => []
  | step :: steps =>
    let (reply, s) := s.step step
    reply :: s.run steps

end Shutdown
end Conformance
