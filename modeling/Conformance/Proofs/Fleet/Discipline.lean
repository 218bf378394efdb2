import Conformance.Proofs.Fleet.Interleaving

/-!
# Programs that share a store

Between two requests of a program others may change the store. A discipline says what each of them
may ask for and how the store may change meanwhile. What it keeps true of the store is true at every
point of every mixture of programs that heed it.
-/
namespace Conformance

variable {σ α β : Type} {store : Store σ}

/-- What is allowed to programs that share a store, and what stays true of the store. -/
structure Discipline (store : Store σ) where
  sound : σ → Prop
  allowed : Request → σ → Prop
  /-- How the store may have changed from one point to a later one. -/
  grows : σ → σ → Prop
  refl (s : σ) : grows s s
  trans {s s' s'' : σ} : grows s s' → grows s' s'' → grows s s''
  grows_request {r : Request} {s : σ} : allowed r s → grows s (store r s).2
  sound_request {r : Request} {s : σ} : sound s → allowed r s → sound (store r s).2

namespace Program

/-- However the store grows between its requests, the program asks for what is allowed, and
`post` is true of its result from then on. -/
def Heeds (D : Discipline store) (post : α → σ → Prop) : Program α → σ → Prop
  | done a, s => ∀ s', D.grows s s' → post a s'
  | ask r next, s => ∀ s', D.grows s s' →
    D.allowed r s' ∧ Heeds D post (next (store r s').1) (store r s').2
  | count _ next, s => Heeds D post next s

variable {D : Discipline store} {post : α → σ → Prop} {p : Program α} {s s' : σ}

theorem Heeds.later (hp : p.Heeds D post s) (h : D.grows s s') : p.Heeds D post s' := by
  induction p with
  | done a =>
    intro s'' h'
    exact hp s'' (D.trans h h')
  | ask r next _ =>
    intro s'' h'
    exact hp s'' (D.trans h h')
  | count event next ih => exact ih hp

theorem Heeds.imp {post' : α → σ → Prop} (hp : p.Heeds D post s)
    (h : ∀ a s', post a s' → post' a s') : p.Heeds D post' s := by
  induction p generalizing s with
  | done a =>
    intro s' hgrows
    exact h a s' (hp s' hgrows)
  | ask r next ih =>
    intro s' hgrows
    obtain ⟨hallowed, hnext⟩ := hp s' hgrows
    exact ⟨hallowed, ih _ hnext⟩
  | count event next ih => exact ih hp

theorem Heeds.bind {f : α → Program β} {post' : β → σ → Prop} (hp : p.Heeds D post s)
    (hf : ∀ a s', D.grows s s' → post a s' → (f a).Heeds D post' s') :
    (p.bind f).Heeds D post' s := by
  induction p generalizing s with
  | done a => exact hf a s (D.refl s) (hp s (D.refl s))
  | ask r next ih =>
    intro s' h
    obtain ⟨hallowed, hnext⟩ := hp s' h
    refine ⟨hallowed, ih _ hnext ?_⟩
    intro a s'' h'
    exact hf a s'' (D.trans (D.trans h (D.grows_request hallowed)) h')
  | count event next ih => exact ih hp hf

theorem Heeds.run (hp : p.Heeds D post s) (hsound : D.sound s) :
    D.sound (p.run store s).2.1 ∧ D.grows s (p.run store s).2.1 := by
  induction p generalizing s with
  | done a => exact ⟨hsound, D.refl s⟩
  | ask r next ih =>
    obtain ⟨hallowed, hnext⟩ := hp s (D.refl s)
    obtain ⟨hsound', hgrows⟩ := ih _ hnext (D.sound_request hsound hallowed)
    exact ⟨hsound', D.trans (D.grows_request hallowed) hgrows⟩
  | count event next ih => exact ih hp hsound

end Program

namespace Scan

variable {D : Discipline store} {post : α → σ → Prop} {s : σ}

def Heeds (D : Discipline store) (post : α → σ → Prop) (p : Scan α) (s : σ) : Prop :=
  p.run.Heeds D (fun result s' => ∀ a, result = .ok a → post a s') s

theorem heeds_pure {a : α} (h : ∀ s', D.grows s s' → post a s') : Heeds D post (pure a) s := by
  intro s' hgrows b hb
  cases hb
  exact h s' hgrows

theorem heeds_throw (cause : ScanError) : Heeds D post (throw cause) s := by
  intro s' _ a ha
  cases ha

theorem heeds_count (metric : Metric) (amount : Nat) :
    Heeds D (fun _ _ => True) (count metric amount) s :=
  fun _ _ _ _ => trivial

theorem heeds_ask {r : Request} {post : r.Answer → σ → Prop}
    (hallowed : ∀ s', D.grows s s' → D.allowed r s')
    (hpost : ∀ s' answer, D.grows s s' → (store r s').1 = .ok answer →
      ∀ s'', D.grows s' s'' → post answer s'') : Heeds D post (ask r) s := by
  intro s' hgrows
  refine ⟨hallowed s' hgrows, ?_⟩
  intro s'' hgrows' answer hanswer
  apply hpost s' answer hgrows _ s'' (D.trans (D.grows_request (hallowed s' hgrows)) hgrows')
  cases h : (store r s').1 with
  | error cause =>
    rw [h] at hanswer
    cases hanswer
  | ok found =>
    rw [h] at hanswer
    cases hanswer
    rfl

theorem heeds_ask_any {r : Request} (hallowed : ∀ s', D.grows s s' → D.allowed r s') :
    Heeds D (fun _ _ => True) (ask r) s :=
  heeds_ask hallowed fun _ _ _ _ _ _ => trivial

theorem heeds_bind {x : Scan α} {f : α → Scan β} {post' : β → σ → Prop} (hx : Heeds D post x s)
    (hf : ∀ a s', D.grows s s' → post a s' → Heeds D post' (f a) s') :
    Heeds D post' (x >>= f) s := by
  have hbind : (x >>= f).run = x.run.bind (ExceptT.bindCont f) := rfl
  rw [Heeds, hbind]
  apply Program.Heeds.bind hx
  intro result s' hgrows hresult
  cases result with
  | error cause => exact heeds_throw cause
  | ok a => exact hf a s' hgrows (hresult a rfl)

end Scan

namespace Auditor

variable {D : Discipline store} {a : Auditor} {now : Moment} {device : Device} {force : Bool}
  {s : σ}

open Scan (Heeds)

theorem heeds_latest_of {name : String} {P : List String → σ → Prop}
    (hstays : ∀ {ids s s'}, D.grows s s' → P ids s → P ids s')
    (hlist : Heeds D P (Scan.ask (.snapshotIds name)) s)
    (hreports : ∀ s', D.allowed (.reportIds name) s') :
    Heeds D (fun newest s' => ∃ ids, newest.1 = Stamp.latest? ids ∧ P ids s') (latest name) s := by
  apply Scan.heeds_bind hlist
  intro ids s₁ _ hids
  apply Scan.heeds_bind (Scan.heeds_ask_any fun s' _ => hreports s')
  intro reports s₂ hgrows _
  apply Scan.heeds_pure
  intro s₃ hgrows'
  exact ⟨ids, rfl, hstays (D.trans hgrows hgrows') hids⟩

/-- A refresh heeds a discipline that allows what it asks for as long as `P` is true, and under which
`P` stays true. -/
theorem heeds_refresh_of {P : σ → Prop} {snapshot : Moment × String}
    (hstays : ∀ {s s'}, D.grows s s' → P s → P s')
    (hload : ∀ s', D.allowed (.loadSnapshot device.name snapshot.2) s')
    (hdiscard : ∀ s', P s' → D.allowed (.discardReports device.name) s')
    (hsave : ∀ lines found s', a.audit device lines = .ok found → P s' →
      D.allowed (.saveReport (reportOn now device snapshot found)) s') (hP : P s) :
    Heeds D (fun _ _ => True) (a.refresh now device force snapshot) s := by
  apply Scan.heeds_bind (Scan.heeds_ask_any fun s' _ => hload s')
  intro lines s₁ h₁ _
  cases haudit : a.audit device lines with
  | error cause => exact Scan.heeds_bind (Scan.heeds_count _ _) fun _ _ _ _ => Scan.heeds_throw _
  | ok found =>
    have hkeep : ∀ n s', P s' → Heeds D (fun _ _ => True) (save now device snapshot found n) s' := by
      intro n s' hP'
      have hallowed : ∀ s'', D.grows s' s'' → D.allowed (.saveReport _) s'' :=
        fun s'' hgrows => hsave lines found s'' haudit (hstays hgrows hP')
      exact Scan.heeds_bind (Scan.heeds_ask_any hallowed) fun _ _ _ _ =>
        Scan.heeds_pure fun _ _ => trivial
    apply Scan.heeds_bind (Scan.heeds_count _ _)
    intro _ s₂ h₂ _
    apply Scan.heeds_bind (Scan.heeds_count _ _)
    intro _ s₃ h₃ _
    have hP₃ : P s₃ := hstays (D.trans (D.trans h₁ h₂) h₃) hP
    cases force with
    | true =>
      have hallowed : ∀ s', D.grows s₃ s' → D.allowed (.discardReports device.name) s' :=
        fun s' hgrows => hdiscard s' (hstays hgrows hP₃)
      apply Scan.heeds_bind (Scan.heeds_ask_any hallowed)
      intro n s₄ h₄ _
      exact hkeep n s₄ (hstays h₄ hP₃)
    | false => exact hkeep 0 s₃ hP₃

theorem heeds_scan_of {P : Moment × String → σ → Prop}
    (hlatest : Heeds D (fun newest s' => ∀ snapshot, newest.1 = some snapshot → P snapshot s')
      (latest device.name) s)
    (hload : ∀ id s', D.allowed (.loadReport device.name id) s')
    (hrefresh : ∀ snapshot s', P snapshot s' →
      Heeds D (fun _ _ => True) (a.refresh now device force snapshot) s') :
    Heeds D (fun _ _ => True) (a.scan now device force) s := by
  apply Scan.heeds_bind hlatest
  rintro ⟨snapshot, report⟩ s₁ _ hnewest
  have hcount : ∀ (outcome : Outcome) s', Heeds D (fun _ _ => True) (do
      Scan.count (.scans outcome.name outcome.status?) 1
      return outcome) s' := fun _ _ =>
    Scan.heeds_bind (Scan.heeds_count _ _) fun _ _ _ _ => Scan.heeds_pure fun _ _ => trivial
  refine Scan.heeds_bind ?_ fun outcome s₂ _ (_ : True) => hcount outcome s₂
  cases snapshot with
  | none => exact Scan.heeds_pure fun _ _ => trivial
  | some newest =>
    simp only [decide]
    split
    · apply Scan.heeds_bind (Scan.heeds_ask_any fun s' _ => hload _ s')
      exact fun _ _ _ _ => Scan.heeds_pure fun _ _ => trivial
    · exact hrefresh newest s₁ (hnewest newest rfl)

end Auditor

/-- Tasks that heed a discipline leave the store sound with each step, and go on to heed it. -/
theorem heeds_of_step {D : Discipline store} {c c' : List FleetTask × σ}
    {post : Except ScanError Outcome → σ → Prop} (h : FleetStep store c c')
    (hsound : D.sound c.2) (hheeds : ∀ t ∈ c.1, t.program.Heeds D post c.2) :
    D.sound c'.2 ∧ D.grows c.2 c'.2 ∧ ∀ t ∈ c'.1, t.program.Heeds D post c'.2 := by
  cases h with
  | @ask before after device r next s _ =>
    simp only [List.forall_mem_append, List.forall_mem_cons] at hheeds ⊢
    obtain ⟨hbefore, hnow, hafter⟩ := hheeds
    obtain ⟨hallowed, hnext⟩ := hnow s (D.refl s)
    have hgrows := D.grows_request hallowed
    exact ⟨D.sound_request hsound hallowed, hgrows, fun t ht => (hbefore t ht).later hgrows, hnext,
      fun t ht => (hafter t ht).later hgrows⟩
  | @count before after device event next s _ =>
    simp only [List.forall_mem_append, List.forall_mem_cons] at hheeds ⊢
    exact ⟨hsound, D.refl s, hheeds⟩

end Conformance
