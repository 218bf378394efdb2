import Conformance.Shutdown
import Mathlib.Data.List.Count
import Mathlib.Data.List.Induction
import Mathlib.Tactic.Common

/-!
# Shutting down once and for all

Whether a signal completes depends on what has happened and not on the signal: some coordinator was
triggered while it was there, or all of them are gone. Neither can be undone, so from one completed
signal on, all signals complete. Of channels only their documented behaviour is used.
-/
namespace Conformance

/-! ## Behaviour of channels -/

namespace WatchChannel

variable {α : Type}

/-- What is documented of channels, `value` being the value of a channel and `senders` the number of its
senders. What a sender does, it does only while there is one. -/
structure IsDocumented (w : WatchChannel α) (value : w.Shared → α) (senders : w.Shared → Nat) :
    Prop where
  create (a : α) : value (w.create a).1 = a ∧ senders (w.create a).1 = 1
  cloneSender (s : w.Shared) : 0 < senders s →
    value (w.cloneSender s) = value s ∧ senders (w.cloneSender s) = senders s + 1
  dropSender (s : w.Shared) : 0 < senders s →
    value (w.dropSender s) = value s ∧ senders (w.dropSender s) = senders s - 1
  sendReplace (a : α) (s : w.Shared) : 0 < senders s → (w.sendReplace a s).1 = value s ∧
    value (w.sendReplace a s).2 = a ∧ senders (w.sendReplace a s).2 = senders s
  subscribe (s : w.Shared) : 0 < senders s →
    value (w.subscribe s).2 = value s ∧ senders (w.subscribe s).2 = senders s
  cloneReceiver (r : w.Receiver) (s : w.Shared) :
    value (w.cloneReceiver r s).2 = value s ∧ senders (w.cloneReceiver r s).2 = senders s
  dropReceiver (r : w.Receiver) (s : w.Shared) :
    value (w.dropReceiver r s) = value s ∧ senders (w.dropReceiver r s) = senders s
  waitFor (p : α → Bool) (r : w.Receiver) (s : w.Shared) :
    value (w.waitFor p r s).2.2 = value s ∧ senders (w.waitFor p r s).2.2 = senders s
  /-- The value is looked at first, even if the receiver has seen it. -/
  found (p : α → Bool) (r : w.Receiver) (s : w.Shared) : p (value s) = true →
    (w.waitFor p r s).1 = .found (value s)
  closed (p : α → Bool) (r : w.Receiver) (s : w.Shared) : p (value s) = false → senders s = 0 →
    (w.waitFor p r s).1 = .closed
  pending (p : α → Bool) (r : w.Receiver) (s : w.Shared) : p (value s) = false → 0 < senders s →
    (w.waitFor p r s).1 = .pending

theorem versioned_isDocumented (α : Type) :
    (versioned α).IsDocumented Versioned.value Versioned.senders where
  create _ := ⟨rfl, rfl⟩
  cloneSender _ _ := ⟨rfl, rfl⟩
  dropSender _ _ := ⟨rfl, rfl⟩
  sendReplace _ _ _ := ⟨rfl, rfl, rfl⟩
  subscribe _ _ := ⟨rfl, rfl⟩
  cloneReceiver _ _ := ⟨rfl, rfl⟩
  dropReceiver _ _ := ⟨rfl, rfl⟩
  waitFor _ _ _ := ⟨rfl, rfl⟩
  found p _ s hp := by simp [versioned, hp]
  closed p _ s hp hnone := by simp [versioned, hp, hnone]
  pending p _ s hp hsome := by simp [versioned, hp, Nat.ne_of_gt hsome]

end WatchChannel

namespace Shutdown

variable {w : WatchChannel Bool} {value : w.Shared → Bool} {senders : w.Shared → Nat}
  {s : Shutdown w} {step : Step} {steps earlier later : List Step} {c n : Nat}

/-! ## Steps -/

theorem getElem?_concat_eq_some_iff {α : Type} {xs : List α} {a b : α} {i : Nat} :
    (xs ++ [a])[i]? = some b ↔ xs[i]? = some b ∨ xs.length = i ∧ a = b := by
  rw [List.getElem?_append]
  split
  · next hi => simp [Nat.ne_of_gt hi]
  · next hi =>
    rw [List.getElem?_singleton, List.getElem?_eq_none (Nat.not_lt.mp hi)]
    have hlast : i - xs.length = 0 ↔ xs.length = i := by omega
    simp [hlast]

theorem isAlive_iff : s.isAlive c = true ↔ s.coordinators[c]? = some true := by
  rw [isAlive]
  cases s.coordinators[c]? <;> simp

theorem signal?_eq_some_iff {r : w.Receiver} :
    s.signal? n = some r ↔ s.signals[n]? = some (some r) := by
  rw [signal?, Option.join_eq_some_iff]

theorem isAlive_step : (s.step step).2.isAlive c = true ↔
    s.isAlive c = true ∧ step ≠ .drop c ∨ ∃ k, step = .clone k ∧ (s.step step).1 = .made c := by
  cases step with
  | clone k =>
    simp only [Shutdown.step]
    split
    · simp [isAlive_iff, getElem?_concat_eq_some_iff]
    · simp
  | drop k =>
    simp only [Shutdown.step]
    by_cases hk : k = c
    · subst hk
      split
      · simp [isAlive_iff, List.getElem?_set]
      · next hgone => simp [hgone]
    · split <;> simp [isAlive_iff, hk]
  | subscribe k | trigger k =>
    simp only [Shutdown.step]
    split <;> simp [isAlive]
  | cloneSignal k | dropSignal k | poll k =>
    simp only [Shutdown.step]
    split <;> simp [isAlive]

def Step.MakesSignal : Step → Prop
  | .subscribe _ | .cloneSignal _ => True
  | _ => False

theorem exists_signal_step : (∃ r, (s.step step).2.signal? n = some r) ↔
    (∃ r, s.signal? n = some r) ∧ step ≠ .dropSignal n ∨
      step.MakesSignal ∧ (s.step step).1 = .made n := by
  cases step with
  | subscribe k =>
    simp only [Shutdown.step]
    split
    · simp [signal?_eq_some_iff, getElem?_concat_eq_some_iff, Step.MakesSignal, exists_or]
    · simp
  | cloneSignal k =>
    simp only [Shutdown.step]
    split
    · simp [signal?_eq_some_iff, getElem?_concat_eq_some_iff, Step.MakesSignal, exists_or]
    · simp
  | dropSignal k =>
    simp only [Shutdown.step]
    by_cases hk : k = n
    · subst hk
      split
      · simp [signal?_eq_some_iff, List.getElem?_set, Step.MakesSignal]
      · next hgone => simp [hgone, Step.MakesSignal]
    · split <;> simp [signal?_eq_some_iff, hk, Step.MakesSignal]
  | poll k =>
    simp only [Shutdown.step]
    by_cases hk : k = n
    · subst hk
      split
      · next r hr =>
        obtain ⟨hlt, hget⟩ := List.getElem?_eq_some_iff.mp (signal?_eq_some_iff.mp hr)
        simp [signal?_eq_some_iff, Step.MakesSignal, hlt, hget]
      · next hgone => simp [hgone, Step.MakesSignal]
    · split <;> simp [signal?_eq_some_iff, hk, Step.MakesSignal]
  | clone k | trigger k | drop k =>
    simp only [Shutdown.step]
    split <;> simp [signal?, Step.MakesSignal]

/-! ## The channel -/

section Channel
variable (hw : w.IsDocumented value senders)

/-- There is one sender for each coordinator that is there. -/
def IsCounted (senders : w.Shared → Nat) (s : Shutdown w) : Prop :=
  senders s.channel = s.coordinators.count true

theorem IsCounted.pos (h : s.IsCounted senders) (halive : s.isAlive c = true) :
    0 < senders s.channel := by
  rw [h]
  exact List.count_pos_iff.mpr (List.mem_of_getElem? (isAlive_iff.mp halive))

theorem isCounted_iff_none (h : s.IsCounted senders) :
    senders s.channel = 0 ↔ ∀ c, ¬ s.isAlive c = true := by
  rw [h, List.count_eq_zero, List.mem_iff_getElem?, not_exists]
  exact forall_congr' fun c => not_congr isAlive_iff.symm

include hw

/-- A step keeps the number of senders at that of the coordinators, and sends only by triggering. -/
theorem channel_step (h : s.IsCounted senders) : (s.step step).2.IsCounted senders ∧
    (value (s.step step).2.channel = true ↔
      value s.channel = true ∨ ∃ c, step = .trigger c ∧ s.isAlive c = true) := by
  cases step with
  | subscribe k =>
    simp only [Shutdown.step]
    split
    · next hk =>
      obtain ⟨hvalue, hsenders⟩ := hw.subscribe _ (h.pos hk)
      exact ⟨hsenders.trans h, by simp [hvalue]⟩
    · exact ⟨h, by simp⟩
  | clone k =>
    simp only [Shutdown.step]
    split
    · next hk =>
      obtain ⟨hvalue, hsenders⟩ := hw.cloneSender _ (h.pos hk)
      refine ⟨?_, by simp [hvalue]⟩
      rw [IsCounted, hsenders, h]
      simp
    · exact ⟨h, by simp⟩
  | trigger k =>
    simp only [Shutdown.step]
    split
    · next hk =>
      obtain ⟨-, hvalue, hsenders⟩ := hw.sendReplace true _ (h.pos hk)
      exact ⟨hsenders.trans h, by simp [hvalue, hk]⟩
    · next hk => exact ⟨h, by simp [hk]⟩
  | drop k =>
    simp only [Shutdown.step]
    split
    · next hk =>
      obtain ⟨hlt, hget⟩ := List.getElem?_eq_some_iff.mp (isAlive_iff.mp hk)
      obtain ⟨hvalue, hsenders⟩ := hw.dropSender _ (h.pos hk)
      refine ⟨?_, by simp [hvalue]⟩
      rw [IsCounted, hsenders, h]
      simp [List.count_set hlt, hget]
    · exact ⟨h, by simp⟩
  | cloneSignal k =>
    simp only [Shutdown.step]
    split
    · next r hr =>
      obtain ⟨hvalue, hsenders⟩ := hw.cloneReceiver r s.channel
      exact ⟨hsenders.trans h, by simp [hvalue]⟩
    · exact ⟨h, by simp⟩
  | dropSignal k =>
    simp only [Shutdown.step]
    split
    · next r hr =>
      obtain ⟨hvalue, hsenders⟩ := hw.dropReceiver r s.channel
      exact ⟨hsenders.trans h, by simp [hvalue]⟩
    · exact ⟨h, by simp⟩
  | poll k =>
    simp only [Shutdown.step]
    split
    · next r hr =>
      obtain ⟨hvalue, hsenders⟩ := hw.waitFor id r s.channel
      exact ⟨hsenders.trans h, by simp [hvalue]⟩
    · exact ⟨h, by simp⟩

theorem step_poll {r : w.Receiver} (hr : s.signal? n = some r) : (s.step (.poll n)).1 =
    .polled (value s.channel || senders s.channel == 0) := by
  have hover : (w.waitFor id r s.channel).1.isOver =
      (value s.channel || senders s.channel == 0) := by
    cases hvalue : value s.channel with
    | true =>
      rw [hw.found id r s.channel hvalue]
      rfl
    | false =>
      cases hsenders : senders s.channel with
      | zero =>
        rw [hw.closed id r s.channel hvalue hsenders]
        rfl
      | succ m =>
        rw [hw.pending id r s.channel hvalue (by omega)]
        rfl
  simp only [Shutdown.step, hr]
  rw [hover]

end Channel

/-! ## Histories -/

def after (s : Shutdown w) (steps : List Step) : Shutdown w :=
  steps.foldl (fun s step => (s.step step).2) s

theorem after_concat : s.after (steps ++ [step]) = ((s.after steps).step step).2 := by
  rw [after, List.foldl_append]
  rfl

def reply (w : WatchChannel Bool) (steps : List Step) (step : Step) : Reply :=
  (((create w).after steps).step step).1

theorem run_append : s.run (steps ++ later) = s.run steps ++ (s.after steps).run later := by
  induction steps generalizing s with
  | nil => rfl
  | cons step steps ih =>
    change (s.step step).1 :: (s.step step).2.run (steps ++ later) =
      (s.step step).1 :: ((s.step step).2.run steps ++ ((s.step step).2.after steps).run later)
    rw [ih]

/-- What a step is replied to in a run depends on the steps before. -/
theorem getElem?_run (w : WatchChannel Bool) (steps : List Step) (step : Step) (later : List Step) :
    ((create w).run (steps ++ step :: later))[steps.length]? = some (reply w steps step) := by
  have hlength : ∀ s : Shutdown w, (s.run steps).length = steps.length := by
    induction steps with
    | nil => exact fun s => rfl
    | cons step steps ih =>
      intro s
      rw [run, List.length_cons, ih, List.length_cons]
  rw [run_append, List.getElem?_append_right (Nat.le_of_eq (hlength _)), hlength, Nat.sub_self]
  rfl

/-- It was so at some time, and the step has not been taken since. -/
def Since (happened : List Step → Prop) (step : Step) (steps : List Step) : Prop :=
  ∃ earlier later, steps = earlier ++ later ∧ happened earlier ∧ step ∉ later

theorem since_nil {happened : List Step → Prop} : Since happened step [] ↔ happened [] := by
  constructor
  · rintro ⟨earlier, later, h, hearlier, -⟩
    rwa [(List.append_eq_nil_iff.mp h.symm).1] at hearlier
  · exact fun h => ⟨[], [], rfl, h, List.not_mem_nil⟩

theorem since_concat {happened : List Step → Prop} {last : Step} :
    Since happened step (steps ++ [last]) ↔
      Since happened step steps ∧ last ≠ step ∨ happened (steps ++ [last]) := by
  constructor
  · rintro ⟨earlier, later, h, hearlier, hstep⟩
    rcases List.eq_nil_or_concat later with rfl | ⟨later, other, rfl⟩
    · rw [List.append_nil] at h
      exact .inr (h ▸ hearlier)
    · rw [List.concat_eq_append] at h hstep
      rw [← List.append_assoc] at h
      obtain ⟨rfl, hlast⟩ := List.append_inj' h rfl
      cases hlast
      rw [List.mem_append, not_or, List.mem_singleton] at hstep
      exact .inl ⟨⟨earlier, later, rfl, hearlier, hstep.1⟩, Ne.symm hstep.2⟩
  · rintro (⟨⟨earlier, later, rfl, hearlier, hstep⟩, hlast⟩ | h)
    · refine ⟨earlier, later ++ [last], by rw [List.append_assoc], hearlier, ?_⟩
      rw [List.mem_append, not_or, List.mem_singleton]
      exact ⟨hstep, Ne.symm hlast⟩
    · exact ⟨steps ++ [last], [], (List.append_nil _).symm, h, List.not_mem_nil⟩

/-- The last step has made the coordinator, or nothing has happened yet and it is the first one. -/
def IsNewCoordinator (w : WatchChannel Bool) (c : Nat) (steps : List Step) : Prop :=
  steps = [] ∧ c = 0 ∨
    ∃ before k, steps = before ++ [.clone k] ∧ reply w before (.clone k) = .made c

def IsNewSignal (w : WatchChannel Bool) (n : Nat) (steps : List Step) : Prop :=
  ∃ before step, steps = before ++ [step] ∧ step.MakesSignal ∧ reply w before step = .made n

def HasCoordinator (w : WatchChannel Bool) (steps : List Step) (c : Nat) : Prop :=
  Since (IsNewCoordinator w c) (.drop c) steps

def HasSignal (w : WatchChannel Bool) (steps : List Step) (n : Nat) : Prop :=
  Since (IsNewSignal w n) (.dropSignal n) steps

def WasTriggered (w : WatchChannel Bool) (steps : List Step) : Prop :=
  ∃ earlier c later, steps = earlier ++ .trigger c :: later ∧ HasCoordinator w earlier c

/-! ## Runs -/

theorem isNewCoordinator_concat : IsNewCoordinator w c (steps ++ [step]) ↔
    ∃ k, step = .clone k ∧ reply w steps step = .made c := by
  constructor
  · rintro (⟨h, -⟩ | ⟨before, k, h, hmade⟩)
    · exact absurd h (by simp)
    · obtain ⟨rfl, hlast⟩ := List.append_inj' h rfl
      cases hlast
      exact ⟨k, rfl, hmade⟩
  · rintro ⟨k, rfl, hmade⟩
    exact .inr ⟨steps, k, rfl, hmade⟩

theorem isNewSignal_concat : IsNewSignal w n (steps ++ [step]) ↔
    step.MakesSignal ∧ reply w steps step = .made n := by
  constructor
  · rintro ⟨before, last, h, hmakes, hmade⟩
    obtain ⟨rfl, hlast⟩ := List.append_inj' h rfl
    cases hlast
    exact ⟨hmakes, hmade⟩
  · exact fun h => ⟨steps, step, rfl, h⟩

theorem wasTriggered_concat : WasTriggered w (steps ++ [step]) ↔
    WasTriggered w steps ∨ ∃ c, step = .trigger c ∧ HasCoordinator w steps c := by
  constructor
  · rintro ⟨earlier, c, later, h, hc⟩
    rcases List.eq_nil_or_concat later with rfl | ⟨later, last, rfl⟩
    · obtain ⟨rfl, hlast⟩ := List.append_inj' h rfl
      cases hlast
      exact .inr ⟨c, rfl, hc⟩
    · rw [List.concat_eq_append, ← List.cons_append, ← List.append_assoc] at h
      exact .inl ⟨earlier, c, later, (List.append_inj' h rfl).1, hc⟩
  · rintro (⟨earlier, c, later, rfl, hc⟩ | ⟨c, rfl, hc⟩)
    · exact ⟨earlier, c, later ++ [step], by simp, hc⟩
    · exact ⟨steps, c, [], rfl, hc⟩

theorem isAlive_after : ((create w).after steps).isAlive c = true ↔ HasCoordinator w steps c := by
  induction steps using List.reverseRecOn with
  | nil =>
    rw [HasCoordinator, since_nil, isAlive_iff]
    change [true][c]? = some true ↔ _
    rw [List.getElem?_singleton]
    simp [IsNewCoordinator]
  | append_singleton steps step ih =>
    rw [after_concat, isAlive_step, ih, HasCoordinator, HasCoordinator, since_concat,
      isNewCoordinator_concat]
    rfl

theorem exists_signal_after :
    (∃ r, ((create w).after steps).signal? n = some r) ↔ HasSignal w steps n := by
  induction steps using List.reverseRecOn with
  | nil =>
    rw [HasSignal, since_nil]
    change (∃ r, none = some r) ↔ _
    simp [IsNewSignal]
  | append_singleton steps step ih =>
    rw [after_concat, exists_signal_step, ih, HasSignal, HasSignal, since_concat, isNewSignal_concat]
    rfl

theorem isCounted_after (hw : w.IsDocumented value senders) :
    ((create w).after steps).IsCounted senders := by
  induction steps using List.reverseRecOn with
  | nil => exact (hw.dropReceiver _ _).2.trans (hw.create false).2
  | append_singleton steps step ih =>
    rw [after_concat]
    exact (channel_step hw ih).1

theorem value_after (hw : w.IsDocumented value senders) :
    value ((create w).after steps).channel = true ↔ WasTriggered w steps := by
  induction steps using List.reverseRecOn with
  | nil =>
    have hvalue : value (create w).channel = false :=
      (hw.dropReceiver _ _).1.trans (hw.create false).1
    change value (create w).channel = true ↔ _
    simp [hvalue, WasTriggered]
  | append_singleton steps step ih =>
    rw [after_concat, (channel_step hw (isCounted_after hw)).2, ih, wasTriggered_concat]
    simp only [isAlive_after]

theorem reply_poll (hw : w.IsDocumented value senders) (h : HasSignal w steps n) :
    ∃ completes, reply w steps (.poll n) = .polled completes ∧
      (completes = true ↔ WasTriggered w steps ∨ ∀ c, ¬ HasCoordinator w steps c) := by
  obtain ⟨r, hr⟩ := exists_signal_after.mpr h
  refine ⟨_, step_poll hw hr, ?_⟩
  rw [Bool.or_eq_true, beq_iff_eq, value_after hw, isCounted_iff_none (isCounted_after hw)]
  simp only [isAlive_after]

theorem WasTriggered.append (h : WasTriggered w steps) (later : List Step) :
    WasTriggered w (steps ++ later) := by
  obtain ⟨earlier, c, between, rfl, hc⟩ := h
  exact ⟨earlier, c, between ++ later, by simp, hc⟩

theorem not_hasCoordinator_append (h : ∀ c, ¬ HasCoordinator w steps c) (later : List Step) :
    ∀ c, ¬ HasCoordinator w (steps ++ later) c := by
  induction later using List.reverseRecOn with
  | nil => simpa using h
  | append_singleton later step ih =>
    intro c hc
    rw [← List.append_assoc, HasCoordinator, since_concat, isNewCoordinator_concat] at hc
    rcases hc with ⟨hc, -⟩ | ⟨k, rfl, hmade⟩
    · exact ih c hc
    · have hgone : ¬ ((create w).after (steps ++ later)).isAlive k = true :=
        fun halive => ih k (isAlive_after.mp halive)
      simp only [reply, Shutdown.step, if_neg hgone] at hmade
      cases hmade

/-- On channels that behave as documented, every signal that is there is told, when it is polled, to
stop exactly if some coordinator was triggered while it was there or all coordinators are gone. Once one
signal has been told to stop, so is every signal from then on. These are the replies of every run. -/
theorem poll_broadcasts (w : WatchChannel Bool) (value : w.Shared → Bool) (senders : w.Shared → Nat)
    (hw : w.IsDocumented value senders) :
    (∀ steps n, HasSignal w steps n → ∃ completes, reply w steps (.poll n) = .polled completes ∧
      (completes = true ↔ WasTriggered w steps ∨ ∀ c, ¬ HasCoordinator w steps c)) ∧
    (∀ steps n later m, reply w steps (.poll n) = .polled true → HasSignal w (steps ++ later) m →
      reply w (steps ++ later) (.poll m) = .polled true) ∧
    ∀ steps step later,
      ((create w).run (steps ++ step :: later))[steps.length]? = some (reply w steps step) := by
  refine ⟨fun steps n h => reply_poll hw h, fun steps n later m hpoll hm => ?_, getElem?_run w⟩
  have hover : WasTriggered w steps ∨ ∀ c, ¬ HasCoordinator w steps c := by
    have hn : HasSignal w steps n := by
      rw [← exists_signal_after]
      cases hsignal : ((create w).after steps).signal? n with
      | some r => exact ⟨r, rfl⟩
      | none =>
        simp only [reply, Shutdown.step, hsignal] at hpoll
        cases hpoll
    obtain ⟨completes, hreply, hcompletes⟩ := reply_poll hw hn
    rw [hpoll, Reply.polled.injEq] at hreply
    exact hcompletes.mp hreply.symm
  obtain ⟨completes, hreply, hcompletes⟩ := reply_poll hw hm
  rw [hreply, hcompletes.mpr]
  rcases hover with htriggered | hgone
  · exact .inl (htriggered.append later)
  · exact .inr (not_hasCoordinator_append hgone later)

/-- A coordinator and a signal that are copies go on when the first ones are gone. The copied signal
stops when the copied coordinator is triggered, and so does a signal that is made later. -/
theorem poll_broadcasts_copies :
    let w := WatchChannel.versioned Bool
    let steps : List Step := [.subscribe 0, .clone 0, .drop 0, .cloneSignal 0, .dropSignal 0]
    w.IsDocumented WatchChannel.Versioned.value WatchChannel.Versioned.senders ∧
      reply w steps (.poll 1) = .polled false ∧
      HasSignal w (steps ++ [.trigger 1]) 1 ∧
      reply w (steps ++ [.trigger 1]) (.poll 1) = .polled true ∧
      HasSignal w (steps ++ [.trigger 1] ++ [.poll 1, .subscribe 1, .drop 1]) 2 ∧
      reply w (steps ++ [.trigger 1] ++ [.poll 1, .subscribe 1, .drop 1]) (.poll 2) =
        .polled true ∧
      ((create w).run (steps ++ [.trigger 1, .poll 1]))[6]? = some (.polled true) := by
  intro w steps
  have hw := WatchChannel.versioned_isDocumented Bool
  obtain ⟨hpoll, hsticky, hrun⟩ := poll_broadcasts w _ _ hw
  have hcopy : HasSignal w (steps ++ [.trigger 1]) 1 :=
    ⟨[.subscribe 0, .clone 0, .drop 0, .cloneSignal 0], [.dropSignal 0, .trigger 1], rfl,
      ⟨[.subscribe 0, .clone 0, .drop 0], .cloneSignal 0, rfl, trivial, rfl⟩, by decide⟩
  have hlater : HasSignal w (steps ++ [.trigger 1] ++ [.poll 1, .subscribe 1, .drop 1]) 2 :=
    ⟨steps ++ [.trigger 1] ++ [.poll 1, .subscribe 1], [.drop 1], rfl,
      ⟨steps ++ [.trigger 1] ++ [.poll 1], .subscribe 1, rfl, trivial, rfl⟩, by decide⟩
  have htriggered : WasTriggered w (steps ++ [.trigger 1]) :=
    ⟨steps, 1, [], rfl, [.subscribe 0, .clone 0], [.drop 0, .cloneSignal 0, .dropSignal 0], rfl,
      .inr ⟨[.subscribe 0], 0, rfl, rfl⟩, by decide⟩
  obtain ⟨completes, hreply, hcompletes⟩ := hpoll _ 1 hcopy
  rw [hcompletes.mpr (.inl htriggered)] at hreply
  exact ⟨hw, rfl, hcopy, hreply, hlater, hsticky _ 1 _ 2 hreply hlater,
    (hrun (steps ++ [.trigger 1]) (.poll 1) []).trans (congrArg some hreply)⟩

end Shutdown

end Conformance
