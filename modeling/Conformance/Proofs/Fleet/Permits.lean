import Conformance.Fleet
import Conformance.Proofs.Catalog
import Conformance.Proofs.Refresh.History
import Conformance.Store.Memory
import Mathlib.Data.List.Perm.Subperm
import Mathlib.Data.List.Range
import Mathlib.Logic.Relation

/-!
# Locks and permits

The scans of a fleet run at the same time, but those of one device one after the other, and only so many
at once. A scan takes the lock of its device, then a permit, runs, and gives back the lock and then the
permit. Locks are made when a device is first asked for. Whoever holds a lock or a permit can be told by
how far its scan has come, and this alone keeps scans apart and keeps them going.
-/
namespace Conformance

open Relation (ReflTransGen)

namespace Fleet

/-- How far a scan has come. Locks are told apart by their numbers. -/
inductive Stage where
  /-- It has been asked for. -/
  | called
  /-- It waits for the lock of its device. -/
  | queued (lock : Nat)
  /-- It holds the lock and waits for a permit. -/
  | locked (lock : Nat)
  /-- It holds the lock and a permit, and is still to run this. -/
  | scanning (lock : Nat) (rest : Program (Except ScanError Outcome))
  /-- It has given back the lock, and still holds the permit. -/
  | leaving (result : Except ScanError Outcome)
  | finished (result : Except ScanError Outcome)

namespace Stage

def lock? : Stage → Option Nat
  | queued lock | locked lock | scanning lock _ => some lock
  | _ => none

def held? : Stage → Option Nat
  | locked lock | scanning lock _ => some lock
  | _ => none

def hasPermit : Stage → Bool
  | scanning _ _ | leaving _ => true
  | _ => false

def waitsForLock : Stage → Bool
  | called | queued _ => true
  | _ => false

def isScanning : Stage → Bool
  | scanning _ _ => true
  | _ => false

def isFinished : Stage → Bool
  | finished _ => true
  | _ => false

theorem exists_lock {stage : Stage} (h : stage.isScanning = true) :
    ∃ lock, stage.lock? = some lock ∧ stage.held? = some lock := by
  cases stage with
  | scanning lock rest => exact ⟨lock, rfl, rfl⟩
  | _ => cases h

theorem hasPermit_of_isScanning {stage : Stage} (h : stage.isScanning = true) :
    stage.hasPermit = true := by
  cases stage with
  | scanning lock rest => rfl
  | _ => cases h

theorem not_hasPermit_of_waitsForLock {stage : Stage} (h : stage.waitsForLock = true) :
    stage.hasPermit = false := by
  cases stage with
  | called | queued => rfl
  | _ => cases h

end Stage

structure Call where
  device : Device
  force : Bool
  stage : Stage

def setStage (calls : List Call) (i : Nat) (stage : Stage) : List Call :=
  calls.modify i fun call => { call with stage }

def held? (calls : List Call) (i : Nat) : Option Nat :=
  calls[i]?.bind (·.stage.held?)

def hasPermit (calls : List Call) (i : Nat) : Bool :=
  calls[i]?.any (·.stage.hasPermit)

end Fleet

/-- Scans that run at the same time, and what they share. -/
structure Fleet (σ : Type) where
  calls : List Fleet.Call
  /-- The numbers of the locks that have been made, by the names of the devices. -/
  locks : Catalog Nat
  /-- For each lock the call that holds it. -/
  holders : List (Option Nat)
  /-- The calls that hold a permit. -/
  admitted : List Nat
  store : σ

namespace Fleet

variable {σ : Type}

def start (s : σ) : Fleet σ :=
  ⟨[], .empty, [], [], s⟩

/-- One step of one call. Of those that wait for a free lock or a permit any may be next. The clock is
read when the scan begins to run. -/
inductive Step (a : Auditor) (store : Store σ) (limit i : Nat) : Fleet σ → Fleet σ → Prop
  | makeLock {c : Fleet σ} {call : Call} : c.calls[i]? = some call → call.stage = .called →
    c.locks.get? call.device.name = none →
    Step a store limit i c { c with
      calls := setStage c.calls i (.queued c.holders.length)
      locks := c.locks.insert call.device.name c.holders.length
      holders := c.holders ++ [none] }
  | findLock {c : Fleet σ} {call : Call} {lock : Nat} : c.calls[i]? = some call →
    call.stage = .called → c.locks.get? call.device.name = some lock →
    Step a store limit i c { c with calls := setStage c.calls i (.queued lock) }
  | lock {c : Fleet σ} {call : Call} {lock : Nat} : c.calls[i]? = some call →
    call.stage = .queued lock → c.holders[lock]? = some none →
    Step a store limit i c { c with
      calls := setStage c.calls i (.locked lock)
      holders := c.holders.set lock (some i) }
  | enter {c : Fleet σ} {call : Call} {lock : Nat} (now : Moment) : c.calls[i]? = some call →
    call.stage = .locked lock → c.admitted.length < permits limit →
    Step a store limit i c { c with
      calls := setStage c.calls i (.scanning lock (a.scan now call.device call.force).run)
      admitted := i :: c.admitted }
  | ask {c : Fleet σ} {call : Call} {lock : Nat} {r : Request}
      {next : Except StoreError r.Answer → Program (Except ScanError Outcome)} :
    c.calls[i]? = some call → call.stage = .scanning lock (.ask r next) →
    Step a store limit i c { c with
      calls := setStage c.calls i (.scanning lock (next (store r c.store).1))
      store := (store r c.store).2 }
  | count {c : Fleet σ} {call : Call} {lock : Nat} {event : Count}
      {next : Program (Except ScanError Outcome)} :
    c.calls[i]? = some call → call.stage = .scanning lock (.count event next) →
    Step a store limit i c { c with calls := setStage c.calls i (.scanning lock next) }
  | unlock {c : Fleet σ} {call : Call} {lock : Nat} {result : Except ScanError Outcome} :
    c.calls[i]? = some call → call.stage = .scanning lock (.done result) →
    Step a store limit i c { c with
      calls := setStage c.calls i (.leaving result)
      holders := c.holders.set lock none }
  | leave {c : Fleet σ} {call : Call} {result : Except ScanError Outcome} :
    c.calls[i]? = some call → call.stage = .leaving result →
    Step a store limit i c { c with
      calls := setStage c.calls i (.finished result)
      admitted := c.admitted.erase i }

inductive Goes (a : Auditor) (store : Store σ) (limit : Nat) : Fleet σ → Fleet σ → Prop
  | call {c : Fleet σ} (device : Device) (force : Bool) :
    Goes a store limit c { c with calls := c.calls ++ [⟨device, force, .called⟩] }
  | step {c c' : Fleet σ} {i : Nat} : Step a store limit i c c' → Goes a store limit c c'

variable {a : Auditor} {store : Store σ} {limit i j lock : Nat} {c c' : Fleet σ} {s : σ} {call : Call}
  {calls : List Call} {stage : Stage} {name : String}

/-! ## Changing a stage -/

theorem getElem?_setStage (h : calls[i]? = some call) (stage : Stage) (j : Nat) :
    (setStage calls i stage)[j]? = if j = i then some { call with stage } else calls[j]? := by
  rw [setStage, List.getElem?_modify]
  by_cases hij : j = i
  · subst hij
    simp [h]
  · simp [hij, Ne.symm hij]

theorem held?_setStage (h : calls[i]? = some call) (stage : Stage) (j : Nat) :
    held? (setStage calls i stage) j = if j = i then stage.held? else held? calls j := by
  rw [held?, getElem?_setStage h, held?]
  split <;> rfl

theorem hasPermit_setStage (h : calls[i]? = some call) (stage : Stage) (j : Nat) :
    hasPermit (setStage calls i stage) j = if j = i then stage.hasPermit else hasPermit calls j := by
  rw [hasPermit, getElem?_setStage h, hasPermit]
  split <;> rfl

theorem held?_eq (h : calls[i]? = some call) : held? calls i = call.stage.held? := by
  rw [held?, h]
  rfl

theorem hasPermit_eq (h : calls[i]? = some call) : hasPermit calls i = call.stage.hasPermit := by
  rw [hasPermit, h]
  rfl

/-! ## What stages tell -/

/-- The lock that a call waits for or holds is that of its device. -/
structure TellsLocks (calls : List Call) (locks : Catalog Nat) (made : Nat) : Prop where
  lt : ∀ {name : String} {lock : Nat}, locks.get? name = some lock → lock < made
  eq : ∀ {i lock : Nat} {call : Call}, calls[i]? = some call → call.stage.lock? = some lock →
    locks.get? call.device.name = some lock

/-- The holder of a lock is the one call that has come so far. -/
def TellsHolders (calls : List Call) (holders : List (Option Nat)) : Prop :=
  ∀ i lock, holders[lock]? = some (some i) ↔ held? calls i = some lock

/-- The permits are with the calls that have come so far. -/
structure TellsAdmitted (limit : Nat) (calls : List Call) (admitted : List Nat) : Prop where
  mem_iff : ∀ {i : Nat}, i ∈ admitted ↔ hasPermit calls i = true
  nodup : admitted.Nodup
  length_le : admitted.length ≤ permits limit

/-- Who holds a lock or a permit is told by the stages of the calls. -/
structure IsOrderly (limit : Nat) (c : Fleet σ) : Prop where
  locks : TellsLocks c.calls c.locks c.holders.length
  holders : TellsHolders c.calls c.holders
  admitted : TellsAdmitted limit c.calls c.admitted

theorem isOrderly_start (limit : Nat) (s : σ) : (start s).IsOrderly limit where
  locks := ⟨fun h => (nomatch h), fun h => by simp [start] at h⟩
  holders := by simp [TellsHolders, start, held?]
  admitted := ⟨by simp [start, hasPermit], .nil, Nat.zero_le _⟩

/-! ### Locks -/

theorem TellsLocks.advance {locks locks' : Catalog Nat} {made made' : Nat}
    (h : TellsLocks calls locks made) (hcall : calls[i]? = some call)
    (hlt : ∀ {name lock}, locks'.get? name = some lock → lock < made')
    (hkept : ∀ {name lock}, locks.get? name = some lock → locks'.get? name = some lock)
    (hnew : ∀ {lock}, stage.lock? = some lock → locks'.get? call.device.name = some lock) :
    TellsLocks (setStage calls i stage) locks' made' where
  lt := hlt
  eq {j lock other} hother hlock := by
    rw [getElem?_setStage hcall] at hother
    split at hother
    · obtain rfl := Option.some.inj hother
      exact hnew hlock
    · exact hkept (h.eq hother hlock)

/-- A call goes on waiting for the lock of its device, or with it, or has no more need of it. -/
theorem TellsLocks.goOn {locks : Catalog Nat} {made : Nat} (h : TellsLocks calls locks made)
    (hcall : calls[i]? = some call)
    (hsame : ∀ {lock}, stage.lock? = some lock → call.stage.lock? = some lock) :
    TellsLocks (setStage calls i stage) locks made :=
  h.advance hcall h.lt id fun hlock => h.eq hcall (hsame hlock)

/-! ### Holders -/

theorem TellsHolders.advance {holders : List (Option Nat)} (h : TellsHolders calls holders)
    (hcall : calls[i]? = some call) (hsame : stage.held? = call.stage.held?) :
    TellsHolders (setStage calls i stage) holders := by
  intro j lock
  rw [held?_setStage hcall, h]
  split
  · next hj => rw [hj, hsame, held?_eq hcall]
  · rfl

theorem TellsHolders.make {holders : List (Option Nat)} (h : TellsHolders calls holders) :
    TellsHolders calls (holders ++ [none]) := by
  intro j lock
  rw [← h, List.getElem?_append]
  split
  · rfl
  · next hge =>
    rw [List.getElem?_eq_none (Nat.not_lt.mp hge)]
    cases lock - holders.length <;> simp

theorem TellsHolders.take {holders : List (Option Nat)} (h : TellsHolders calls holders)
    (hcall : calls[i]? = some call) (hnone : call.stage.held? = none)
    (hfree : holders[lock]? = some none) (hsome : stage.held? = some lock) :
    TellsHolders (setStage calls i stage) (holders.set lock (some i)) := by
  intro j other
  have hlt : lock < holders.length := (List.getElem?_eq_some_iff.mp hfree).1
  have hi := h i other
  have hj := h j other
  rw [held?_eq hcall, hnone] at hi
  rw [held?_setStage hcall, hsome, List.getElem?_set]
  by_cases hlock : lock = other
  · subst hlock
    rw [hfree] at hj
    by_cases hij : j = i
    · simp [hij, hlt]
    · simp [hlt, hij, Ne.symm hij, ← hj]
  · by_cases hij : j = i
    · simp [hij, hlock, hi]
    · simp [hij, hlock, hj]

theorem TellsHolders.giveBack {holders : List (Option Nat)} (h : TellsHolders calls holders)
    (hcall : calls[i]? = some call) (hsome : call.stage.held? = some lock)
    (hnone : stage.held? = none) :
    TellsHolders (setStage calls i stage) (holders.set lock none) := by
  intro j other
  have hheld : holders[lock]? = some (some i) := (h i lock).mpr ((held?_eq hcall).trans hsome)
  have hi := h i other
  have hj := h j other
  rw [held?_eq hcall, hsome] at hi
  rw [held?_setStage hcall, hnone, List.getElem?_set]
  by_cases hlock : lock = other
  · subst hlock
    rw [hheld] at hj
    by_cases hij : j = i
    · simp [hij]
    · simp [hij, ← hj, Ne.symm hij]
  · by_cases hij : j = i
    · simp [hij, hlock, hi]
    · simp [hij, hlock, hj]

/-! ### Permits -/

theorem TellsAdmitted.advance {admitted : List Nat} (h : TellsAdmitted limit calls admitted)
    (hcall : calls[i]? = some call) (hsame : stage.hasPermit = call.stage.hasPermit) :
    TellsAdmitted limit (setStage calls i stage) admitted where
  mem_iff {j} := by
    rw [hasPermit_setStage hcall, h.mem_iff]
    split
    · next hj => rw [hj, hsame, hasPermit_eq hcall]
    · rfl
  nodup := h.nodup
  length_le := h.length_le

theorem TellsAdmitted.take {admitted : List Nat} (h : TellsAdmitted limit calls admitted)
    (hcall : calls[i]? = some call) (hnone : call.stage.hasPermit = false)
    (hroom : admitted.length < permits limit) (hsome : stage.hasPermit = true) :
    TellsAdmitted limit (setStage calls i stage) (i :: admitted) where
  mem_iff {j} := by
    rw [hasPermit_setStage hcall, List.mem_cons, h.mem_iff]
    split
    · next hj => simp [hj, hsome]
    · next hj => simp [hj]
  nodup := by
    refine List.nodup_cons.mpr ⟨?_, h.nodup⟩
    rw [h.mem_iff, hasPermit_eq hcall, hnone]
    exact Bool.false_ne_true
  length_le := hroom

theorem TellsAdmitted.giveBack {admitted : List Nat} (h : TellsAdmitted limit calls admitted)
    (hcall : calls[i]? = some call) (hnone : stage.hasPermit = false) :
    TellsAdmitted limit (setStage calls i stage) (admitted.erase i) where
  mem_iff {j} := by
    rw [hasPermit_setStage hcall, h.nodup.mem_erase_iff, h.mem_iff]
    split
    · next hj => simp [hj, hnone]
    · next hj => simp [hj]
  nodup := h.nodup.erase i
  length_le := List.length_erase_le.trans h.length_le

/-! ## Steps -/

theorem TellsLocks.make {locks : Catalog Nat} {made : Nat} (h : TellsLocks calls locks made)
    (hcall : calls[i]? = some call) (hnew : locks.get? call.device.name = none) :
    TellsLocks (setStage calls i (.queued made)) (locks.insert call.device.name made) (made + 1) := by
  refine h.advance hcall ?_ ?_ ?_
  · intro name lock hlock
    rw [Catalog.get?_insert] at hlock
    split at hlock
    · cases hlock
      exact Nat.lt_succ_self _
    · exact Nat.lt_succ_of_lt (h.lt hlock)
  · intro name lock hlock
    rwa [Catalog.get?_insert_of_ne]
    rintro rfl
    rw [hnew] at hlock
    cases hlock
  · rintro lock ⟨⟩
    exact Catalog.get?_insert_self _ _ _

theorem IsOrderly.step (h : c.IsOrderly limit) (hstep : Step a store limit i c c') :
    c'.IsOrderly limit := by
  cases hstep with
  | makeLock hcall hstage hnew =>
    refine ⟨?_, (h.holders.advance hcall (hstage ▸ rfl)).make,
      h.admitted.advance hcall (hstage ▸ rfl)⟩
    rw [List.length_append]
    exact h.locks.make hcall hnew
  | findLock hcall hstage hfound =>
    refine ⟨h.locks.advance hcall h.locks.lt id ?_, h.holders.advance hcall (hstage ▸ rfl),
      h.admitted.advance hcall (hstage ▸ rfl)⟩
    rintro lock ⟨⟩
    exact hfound
  | lock hcall hstage hfree =>
    refine ⟨?_, h.holders.take hcall (hstage ▸ rfl) hfree rfl,
      h.admitted.advance hcall (hstage ▸ rfl)⟩
    rw [List.length_set]
    exact h.locks.goOn hcall fun hlock => hstage ▸ hlock
  | enter now hcall hstage hroom =>
    exact ⟨h.locks.goOn hcall fun hlock => hstage ▸ hlock, h.holders.advance hcall (hstage ▸ rfl),
      h.admitted.take hcall (hstage ▸ rfl) hroom rfl⟩
  | ask hcall hstage =>
    exact ⟨h.locks.goOn hcall fun hlock => hstage ▸ hlock, h.holders.advance hcall (hstage ▸ rfl),
      h.admitted.advance hcall (hstage ▸ rfl)⟩
  | count hcall hstage =>
    exact ⟨h.locks.goOn hcall fun hlock => hstage ▸ hlock, h.holders.advance hcall (hstage ▸ rfl),
      h.admitted.advance hcall (hstage ▸ rfl)⟩
  | unlock hcall hstage =>
    refine ⟨?_, h.holders.giveBack hcall (hstage ▸ rfl) rfl,
      h.admitted.advance hcall (hstage ▸ rfl)⟩
    rw [List.length_set]
    exact h.locks.goOn hcall nofun
  | leave hcall hstage =>
    exact ⟨h.locks.goOn hcall nofun, h.holders.advance hcall (hstage ▸ rfl),
      h.admitted.giveBack hcall rfl⟩

theorem getElem?_asked (calls : List Call) (device : Device) (force : Bool) (i : Nat) :
    (calls ++ [⟨device, force, .called⟩])[i]? = calls[i]? ∨
      calls[i]? = none ∧ (calls ++ [⟨device, force, .called⟩])[i]? = some ⟨device, force, .called⟩ := by
  rw [List.getElem?_append]
  split
  · exact .inl rfl
  · next hge =>
    rw [List.getElem?_eq_none (Nat.not_lt.mp hge)]
    cases i - calls.length with
    | zero => exact .inr ⟨rfl, rfl⟩
    | succ n => exact .inl rfl

theorem IsOrderly.asked (h : c.IsOrderly limit) (device : Device) (force : Bool) :
    IsOrderly limit { c with calls := c.calls ++ [⟨device, force, .called⟩] } := by
  have hasked := getElem?_asked c.calls device force
  have hheld : ∀ i, held? (c.calls ++ [⟨device, force, .called⟩]) i = held? c.calls i := by
    intro i
    rw [held?, held?]
    rcases hasked i with heq | ⟨hnone, hcalled⟩
    · rw [heq]
    · rw [hnone, hcalled]
      rfl
  have hpermit : ∀ i, hasPermit (c.calls ++ [⟨device, force, .called⟩]) i = hasPermit c.calls i := by
    intro i
    rw [hasPermit, hasPermit]
    rcases hasked i with heq | ⟨hnone, hcalled⟩
    · rw [heq]
    · rw [hnone, hcalled]
      rfl
  refine ⟨⟨h.locks.lt, ?_⟩, fun i lock => ?_, ⟨?_, h.admitted.nodup, h.admitted.length_le⟩⟩
  · intro i lock call hcall hlock
    rcases hasked i with heq | ⟨-, hcalled⟩
    · exact h.locks.eq (heq.symm.trans hcall) hlock
    · obtain rfl := Option.some.inj (hcalled.symm.trans hcall)
      cases hlock
  · rw [hheld]
    exact h.holders i lock
  · intro i
    rw [hpermit]
    exact h.admitted.mem_iff

theorem isOrderly_of_reachable (h : ReflTransGen (Goes a store limit) (start s) c) :
    c.IsOrderly limit := by
  induction h with
  | refl => exact isOrderly_start limit s
  | tail _ hgoes ih =>
    cases hgoes with
    | call device force => exact ih.asked device force
    | step hstep => exact ih.step hstep

/-! ## What order comes to -/

section Order
variable (h : c.IsOrderly limit)
include h

theorem IsOrderly.eq_of_held {other : Call} (hi : c.calls[i]? = some call)
    (hj : c.calls[j]? = some other) (hlock : call.stage.held? = some lock)
    (hlock' : other.stage.held? = some lock) : i = j := by
  have hholder := (h.holders i lock).mpr ((held?_eq hi).trans hlock)
  have hholder' := (h.holders j lock).mpr ((held?_eq hj).trans hlock')
  exact Option.some.inj (Option.some.inj (hholder.symm.trans hholder'))

theorem IsOrderly.eq_of_isScanning {other : Call} (hi : c.calls[i]? = some call)
    (hj : c.calls[j]? = some other) (hscan : call.stage.isScanning = true)
    (hscan' : other.stage.isScanning = true) (hname : call.device.name = other.device.name) :
    i = j := by
  obtain ⟨lock, hlock, hheld⟩ := Stage.exists_lock hscan
  obtain ⟨lock', hlock', hheld'⟩ := Stage.exists_lock hscan'
  have hsame := h.locks.eq hj hlock'
  rw [← hname, h.locks.eq hi hlock] at hsame
  obtain rfl := Option.some.inj hsame
  exact h.eq_of_held hi hj hheld hheld'

theorem IsOrderly.countP_le :
    c.calls.countP (·.stage.hasPermit) ≤ permits limit := by
  have hmem : (c.calls.zipIdx.filter (·.1.stage.hasPermit)).map Prod.snd ⊆ c.admitted := by
    intro i hi
    obtain ⟨⟨call, _⟩, hcall, rfl⟩ := List.mem_map.mp hi
    obtain ⟨hcall, hpermit⟩ := List.mem_filter.mp hcall
    rw [h.admitted.mem_iff, hasPermit_eq (List.mem_zipIdx_iff_getElem?.mp hcall)]
    exact hpermit
  have hnodup : ((c.calls.zipIdx.filter (·.1.stage.hasPermit)).map Prod.snd).Nodup := by
    refine List.Nodup.sublist (List.filter_sublist.map Prod.snd) ?_
    rw [List.zipIdx_map_snd]
    exact List.nodup_range' 1
  calc c.calls.countP (·.stage.hasPermit)
      = c.calls.zipIdx.countP (·.1.stage.hasPermit) := by
        conv_lhs => rw [← List.zipIdx_map_fst 0 c.calls, List.countP_map]
        rfl
    _ = ((c.calls.zipIdx.filter (·.1.stage.hasPermit)).map Prod.snd).length := by
        rw [List.length_map, List.countP_eq_length_filter]
    _ ≤ c.admitted.length := (hnodup.subperm hmem).length_le
    _ ≤ permits limit := h.admitted.length_le

/-! ### Going on -/

omit h in
theorem exists_step_of_hasPermit (hcall : c.calls[i]? = some call)
    (hpermit : call.stage.hasPermit = true) : ∃ c', Step a store limit i c c' := by
  cases hstage : call.stage with
  | scanning lock rest =>
    cases rest with
    | done result => exact ⟨_, .unlock hcall hstage⟩
    | ask r next => exact ⟨_, .ask hcall hstage⟩
    | count event next => exact ⟨_, .count hcall hstage⟩
  | leaving result => exact ⟨_, .leave hcall hstage⟩
  | _ =>
    rw [hstage] at hpermit
    cases hpermit

/-- Where no permit is left, some scan that holds one can go on. -/
theorem IsOrderly.exists_step_of_locked (hcall : c.calls[i]? = some call)
    (hstage : call.stage = .locked lock) : ∃ j c', Step a store limit j c c' := by
  by_cases hroom : c.admitted.length < permits limit
  · exact ⟨i, _, .enter ⟨0, 1, 1, 0, 0, 0⟩ hcall hstage hroom⟩
  · have hpos : 0 < c.admitted.length :=
      Nat.lt_of_lt_of_le (Nat.le_max_left 1 limit) (Nat.not_lt.mp hroom)
    obtain ⟨j, hj⟩ := List.exists_mem_of_length_pos hpos
    obtain ⟨other, hother, hpermit⟩ := (Option.any_eq_true _ _).mp (h.admitted.mem_iff.mp hj)
    obtain ⟨c', hstep⟩ := exists_step_of_hasPermit hother hpermit
    exact ⟨j, c', hstep⟩

theorem IsOrderly.exists_step_of_held (hcall : c.calls[i]? = some call)
    (hheld : call.stage.held? = some lock) : ∃ j c', Step a store limit j c c' := by
  cases hstage : call.stage with
  | locked lock => exact h.exists_step_of_locked hcall hstage
  | scanning lock rest =>
    obtain ⟨c', hstep⟩ := exists_step_of_hasPermit hcall (hstage ▸ rfl)
    exact ⟨i, c', hstep⟩
  | _ =>
    rw [hstage] at hheld
    cases hheld

/-- While a scan has not come to its end, it can go on, or the one that holds its lock, or one that holds
a permit. -/
theorem IsOrderly.exists_step (hcall : c.calls[i]? = some call)
    (hunfinished : call.stage.isFinished = false) : ∃ j c', Step a store limit j c c' := by
  cases hstage : call.stage with
  | called =>
    cases hlock : c.locks.get? call.device.name with
    | none => exact ⟨i, _, .makeLock hcall hstage hlock⟩
    | some lock => exact ⟨i, _, .findLock hcall hstage hlock⟩
  | queued lock =>
    have hlock : call.stage.lock? = some lock := hstage ▸ rfl
    have hlt := h.locks.lt (h.locks.eq hcall hlock)
    cases hholder : c.holders[lock] with
    | none =>
      exact ⟨i, _, .lock hcall hstage ((List.getElem?_eq_getElem hlt).trans (congrArg _ hholder))⟩
    | some j =>
      have hheld := (h.holders j lock).mp ((List.getElem?_eq_getElem hlt).trans (congrArg _ hholder))
      obtain ⟨other, hother, hheld⟩ := Option.bind_eq_some_iff.mp hheld
      exact h.exists_step_of_held hother hheld
  | locked lock => exact h.exists_step_of_locked hcall hstage
  | scanning lock rest =>
    have hheld : call.stage.held? = some lock := hstage ▸ rfl
    exact h.exists_step_of_held hcall hheld
  | leaving result =>
    obtain ⟨c', hstep⟩ := exists_step_of_hasPermit hcall (hstage ▸ rfl)
    exact ⟨i, c', hstep⟩
  | finished result =>
    rw [hstage] at hunfinished
    cases hunfinished

end Order

/-- In every state that scans of any devices come to, however their steps are mixed, at most one scan
of each device runs, no more run than there are permits, and none that waits for the lock of its device
holds a permit. While one of them has not come to its end, one of them can go on. -/
theorem scans_in_order (a : Auditor) (store : Store σ) (limit : Nat) (s : σ) (c : Fleet σ)
    (h : ReflTransGen (Goes a store limit) (start s) c) :
    (∀ (i j : Nat) (call other : Call), c.calls[i]? = some call → c.calls[j]? = some other →
      call.stage.isScanning = true → other.stage.isScanning = true →
      call.device.name = other.device.name → i = j) ∧
    c.calls.countP (·.stage.isScanning) ≤ max 1 limit ∧
    (∀ i call, c.calls[i]? = some call → call.stage.waitsForLock = true → i ∉ c.admitted) ∧
    ((∃ call ∈ c.calls, call.stage.isFinished = false) → ∃ i c', Step a store limit i c c') := by
  have horder := isOrderly_of_reachable h
  refine ⟨fun i j call other hi hj hscan hscan' => horder.eq_of_isScanning hi hj hscan hscan', ?_, ?_,
    ?_⟩
  · refine (List.countP_mono_left fun call _ hscan => ?_).trans horder.countP_le
    exact Stage.hasPermit_of_isScanning hscan
  · intro i call hcall hwaits hmem
    rw [horder.admitted.mem_iff, hasPermit_eq hcall, Stage.not_hasPermit_of_waitsForLock hwaits] at hmem
    cases hmem
  · rintro ⟨call, hmem, hunfinished⟩
    obtain ⟨i, hcall⟩ := List.mem_iff_getElem?.mp hmem
    exact horder.exists_step hcall hunfinished

/-- Two scans of a device and one of another, with a limit of zero. While the first runs, the second
waits for its lock and the third for a permit. -/
theorem scans_in_order_crowded :
    let scan := (Auditor.blank.scan ⟨2024, 5, 1, 12, 0, 0⟩ ⟨"sw1", .els⟩ true).run
    let c : Fleet Memory := ⟨[⟨⟨"sw1", .els⟩, true, .scanning 0 scan⟩, ⟨⟨"sw1", .els⟩, false, .queued 0⟩,
      ⟨⟨"sw2", .els⟩, false, .locked 1⟩], (Catalog.empty.insert "sw1" 0).insert "sw2" 1,
      [some 0, some 2], [0], .empty⟩
    ReflTransGen (Goes .blank Memory.store 0) (start .empty) c ∧
      c.calls.countP (·.stage.isScanning) = 1 ∧ 1 ∉ c.admitted ∧
      ∃ i c', Step .blank Memory.store 0 i c c' := by
  intro scan c
  have hreach : ReflTransGen (Goes .blank Memory.store 0) (start .empty) c := by
    refine .head (.call ⟨"sw1", .els⟩ true) ?_
    refine .head (.call ⟨"sw1", .els⟩ false) ?_
    refine .head (.call ⟨"sw2", .els⟩ false) ?_
    refine .head (.step (.makeLock (i := 0) rfl rfl rfl)) ?_
    refine .head (.step (.lock (i := 0) rfl rfl rfl)) ?_
    refine .head (.step (.enter (i := 0) ⟨2024, 5, 1, 12, 0, 0⟩ rfl rfl (by decide))) ?_
    refine .head (.step (.findLock (i := 1) rfl rfl rfl)) ?_
    refine .head (.step (.makeLock (i := 2) rfl rfl (by decide +kernel))) ?_
    exact .head (.step (.lock (i := 2) rfl rfl rfl)) .refl
  obtain ⟨-, hcount, hwaits, hgoes⟩ := scans_in_order .blank Memory.store 0 .empty c hreach
  exact ⟨hreach, rfl, hwaits 1 _ rfl rfl, hgoes ⟨_, List.mem_cons_self, rfl⟩⟩

end Fleet
end Conformance
