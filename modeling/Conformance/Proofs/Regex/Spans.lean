import Conformance.Regex.Matching
import Mathlib.Data.List.Basic
import Mathlib.Tactic.Common

/-!
# What matching finds

Carrying sets of positions through an expression finds the pieces of the text that the expression
matches. A repetition is told by how often its body is matched; where it may go on for ever, rounds
that do not advance can be left out, so that there are no more rounds than characters.
-/
namespace Conformance.Regex

variable {xs ys s t : List Nat} {a i j k n size : Nat} {f : List Nat → List Nat}
  {R : Nat → Nat → Prop} {text : Array Char} {e : Expr} {least : Nat} {most : Option Nat}

/-! ## Sets of positions -/

theorem mem_merge : a ∈ merge xs ys ↔ a ∈ xs ∨ a ∈ ys := by
  fun_induction merge xs ys with
  | case1 ys => simp
  | case2 xs hne => simp
  | case3 x xs ys ih =>
    simp only [List.mem_cons, ih]
    tauto
  | case4 x xs y ys hne hlt ih =>
    simp only [List.mem_cons, ih]
    tauto
  | case5 x xs y ys hne hlt ih =>
    simp only [List.mem_cons, ih]
    tauto

theorem pairwise_merge (hxs : xs.Pairwise (· > ·)) (hys : ys.Pairwise (· > ·)) :
    (merge xs ys).Pairwise (· > ·) := by
  fun_induction merge xs ys with
  | case1 ys => exact hys
  | case2 xs hne => exact hxs
  | case3 x xs ys ih =>
    rw [List.pairwise_cons] at hxs hys
    refine List.pairwise_cons.mpr ⟨fun a ha => ?_, ih hxs.2 hys.2⟩
    exact (mem_merge.mp ha).elim (hxs.1 a) (hys.1 a)
  | case4 x xs y ys hne hlt ih =>
    rw [List.pairwise_cons] at hxs
    refine List.pairwise_cons.mpr ⟨fun a ha => ?_, ih hxs.2 hys⟩
    rcases mem_merge.mp ha with ha | ha
    · exact hxs.1 a ha
    · rcases List.mem_cons.mp ha with rfl | ha
      · exact hlt
      · exact Nat.lt_trans ((List.pairwise_cons.mp hys).1 a ha) hlt
  | case5 x xs y ys hne hlt ih =>
    rw [List.pairwise_cons] at hys
    have hgt : x < y := by omega
    refine List.pairwise_cons.mpr ⟨fun a ha => ?_, ih hxs hys.2⟩
    rcases mem_merge.mp ha with ha | ha
    · rcases List.mem_cons.mp ha with rfl | ha
      · exact hgt
      · exact Nat.lt_trans ((List.pairwise_cons.mp hxs).1 a ha) hgt
    · exact hys.1 a ha

theorem minus_sublist (xs ys : List Nat) : (minus xs ys).Sublist xs := by
  fun_induction minus xs ys with
  | case1 ys => exact .refl _
  | case2 xs hne => exact .refl _
  | case3 xs y ys ih => exact ih.cons y
  | case4 x xs y ys hne hlt ih => exact ih.cons_cons x
  | case5 x xs y ys hne hlt ih => exact ih

theorem mem_minus (hxs : xs.Pairwise (· > ·)) (hys : ys.Pairwise (· > ·)) :
    a ∈ minus xs ys ↔ a ∈ xs ∧ a ∉ ys := by
  fun_induction minus xs ys with
  | case1 ys => simp
  | case2 xs hne => simp
  | case3 xs y ys ih =>
    have hcons : a ∈ y :: xs ↔ a = y ∨ a ∈ xs := List.mem_cons
    rw [ih (List.pairwise_cons.mp hxs).2 hys, hcons]
    constructor
    · rintro ⟨hmem, hnot⟩
      exact ⟨.inr hmem, hnot⟩
    · rintro ⟨rfl | hmem, hnot⟩
      · exact absurd List.mem_cons_self hnot
      · exact ⟨hmem, hnot⟩
  | case4 x xs y ys hne hlt ih =>
    have hx : x ∉ y :: ys := by
      intro hmem
      rcases List.mem_cons.mp hmem with rfl | hmem
      · exact hne rfl
      · exact absurd ((List.pairwise_cons.mp hys).1 x hmem) (by omega)
    have hcons : a ∈ x :: xs ↔ a = x ∨ a ∈ xs := List.mem_cons
    rw [List.mem_cons, ih (List.pairwise_cons.mp hxs).2 hys, hcons]
    constructor
    · rintro (rfl | ⟨hmem, hnot⟩)
      · exact ⟨.inl rfl, hx⟩
      · exact ⟨.inr hmem, hnot⟩
    · rintro ⟨rfl | hmem, hnot⟩
      · exact .inl rfl
      · exact .inr ⟨hmem, hnot⟩
  | case5 x xs y ys hne hlt ih =>
    have hy : y ∉ x :: xs := by
      intro hmem
      rcases List.mem_cons.mp hmem with rfl | hmem
      · exact hne rfl
      · exact absurd ((List.pairwise_cons.mp hxs).1 y hmem) (by omega)
    have hcons : a ∈ y :: ys ↔ a = y ∨ a ∈ ys := List.mem_cons
    rw [ih hxs (List.pairwise_cons.mp hys).2, hcons, not_or]
    refine and_congr_right fun hmem => (and_iff_right ?_).symm
    rintro rfl
    exact hy hmem

structure IsPositions (size : Nat) (s : List Nat) : Prop where
  descending : s.Pairwise (· > ·)
  le : ∀ i ∈ s, i ≤ size

theorem IsPositions.merge (hs : IsPositions size s) (ht : IsPositions size t) :
    IsPositions size (Regex.merge s t) where
  descending := pairwise_merge hs.descending ht.descending
  le i hi := (mem_merge.mp hi).elim (hs.le i) (ht.le i)

theorem IsPositions.minus (hs : IsPositions size s) (t : List Nat) :
    IsPositions size (Regex.minus s t) where
  descending := hs.descending.sublist (minus_sublist s t)
  le i hi := hs.le i ((minus_sublist s t).subset hi)

/-! ## Rounds -/

def Steps (R : Nat → Nat → Prop) : Nat → Nat → Nat → Prop
  | 0, i, j => i = j
  | n + 1, i, j => ∃ k, R i k ∧ Steps R n k j

/-- `f` takes sets of positions to all positions that `R` leads to, forward within the text. -/
structure Carries (size : Nat) (R : Nat → Nat → Prop) (f : List Nat → List Nat) : Prop where
  forward : ∀ {i j}, R i j → i ≤ size → i ≤ j ∧ j ≤ size
  descending : ∀ {s}, IsPositions size s → (f s).Pairwise (· > ·)
  mem : ∀ {s}, IsPositions size s → ∀ j, j ∈ f s ↔ ∃ i ∈ s, R i j

theorem Carries.isPositions (hf : Carries size R f) (hs : IsPositions size s) :
    IsPositions size (f s) where
  descending := hf.descending hs
  le j hj := by
    obtain ⟨i, hi, hR⟩ := (hf.mem hs j).mp hj
    exact (hf.forward hR (hs.le i hi)).2

theorem steps_add {m : Nat} : Steps R (m + n) i j ↔ ∃ k, Steps R m i k ∧ Steps R n k j := by
  induction m generalizing i with
  | zero => simp [Steps]
  | succ m ih =>
    rw [Nat.add_right_comm]
    simp only [Steps, ih]
    constructor
    · rintro ⟨k, hstep, l, hfirst, hrest⟩
      exact ⟨l, ⟨k, hstep, hfirst⟩, hrest⟩
    · rintro ⟨l, ⟨k, hstep, hfirst⟩, hrest⟩
      exact ⟨k, hstep, l, hfirst, hrest⟩

theorem steps_forward (hR : ∀ {i j}, R i j → i ≤ size → i ≤ j ∧ j ≤ size) (h : Steps R n i j)
    (hi : i ≤ size) : i ≤ j ∧ j ≤ size := by
  induction n generalizing i with
  | zero => exact h ▸ ⟨Nat.le_refl i, hi⟩
  | succ n ih =>
    obtain ⟨k, hstep, hrest⟩ := h
    have hk := hR hstep hi
    have hj := ih hrest hk.2
    exact ⟨Nat.le_trans hk.1 hj.1, hj.2⟩

theorem exists_steps_le (hR : ∀ {i j}, R i j → i ≤ size → i ≤ j ∧ j ≤ size) (h : Steps R n i j)
    (hi : i ≤ size) : ∃ k ≤ j - i, Steps R k i j := by
  induction n generalizing i with
  | zero => exact ⟨0, Nat.zero_le _, h⟩
  | succ n ih =>
    obtain ⟨k, hstep, hrest⟩ := h
    have hk := hR hstep hi
    obtain ⟨m, hm, hsteps⟩ := ih hrest hk.2
    have hj := (steps_forward hR hrest hk.2).1
    by_cases heq : i = k
    · exact ⟨m, heq ▸ hm, heq ▸ hsteps⟩
    · exact ⟨m + 1, by omega, k, hstep, hsteps⟩

theorem Carries.steps_of_fixed (hf : Carries size R f) (hs : IsPositions size s) (hfix : f s = s)
    (n j : Nat) : j ∈ s ↔ ∃ i ∈ s, Steps R n i j := by
  induction n with
  | zero => simp [Steps]
  | succ n ih =>
    rw [ih]
    constructor
    · rintro ⟨i, hi, hsteps⟩
      rw [← hfix, hf.mem hs] at hi
      obtain ⟨i', hi', hR⟩ := hi
      exact ⟨i', hi', i, hR, hsteps⟩
    · rintro ⟨i, hi, k, hR, hsteps⟩
      refine ⟨k, ?_, hsteps⟩
      rw [← hfix, hf.mem hs]
      exact ⟨i, hi, hR⟩

theorem Carries.rounds (hf : Carries size R f) (hs : IsPositions size s) (n : Nat) :
    IsPositions size (rounds f n s) ∧ ∀ j, j ∈ Regex.rounds f n s ↔ ∃ i ∈ s, Steps R n i j := by
  induction n generalizing s with
  | zero => exact ⟨hs, fun j => by simp [Regex.rounds, Steps]⟩
  | succ n ih =>
    have hnext := hf.isPositions hs
    have hsteps : ∀ j, (∃ i ∈ s, Steps R (n + 1) i j) ↔ ∃ i ∈ f s, Steps R n i j := by
      intro j
      constructor
      · rintro ⟨i, hi, k, hR, hrest⟩
        exact ⟨k, (hf.mem hs k).mpr ⟨i, hi, hR⟩, hrest⟩
      · rintro ⟨k, hk, hrest⟩
        obtain ⟨i, hi, hR⟩ := (hf.mem hs k).mp hk
        exact ⟨i, hi, k, hR, hrest⟩
    simp only [hsteps]
    rw [Regex.rounds]
    split
    · next hstop =>
      refine ⟨hnext, fun j => ?_⟩
      rw [Bool.or_eq_true, List.isEmpty_iff, beq_iff_eq] at hstop
      rcases hstop with hnil | hfix
      · simp [hnil]
      · rw [hfix]
        exact hf.steps_of_fixed hs hfix n j
    · exact ih hnext

/-! ## Closures -/

/-- Steps that begin among the positions seen stay there or come to one that is new. -/
theorem steps_leave (hseen : ∀ i ∈ s, ∀ j, R i j → j ∈ s ∨ j ∈ t) (hi : i ∈ s)
    (h : Steps R n i j) : j ∈ s ∨ ∃ k < n, ∃ i ∈ t, Steps R k i j := by
  induction n generalizing i with
  | zero => exact .inl (h ▸ hi)
  | succ n ih =>
    obtain ⟨k, hstep, hrest⟩ := h
    rcases hseen i hi k hstep with hk | hk
    · exact (ih hk hrest).imp id fun ⟨m, hm, rest⟩ => ⟨m, by omega, rest⟩
    · exact .inr ⟨n, Nat.lt_succ_self n, k, hk, hrest⟩

/-- In the middle of a closure: the positions seen, and the fresh ones among them, from which the
next round goes out. -/
structure IsFrontier (size : Nat) (R : Nat → Nat → Prop) (s t : List Nat) : Prop where
  seen : IsPositions size s
  fresh : IsPositions size t
  subset : ∀ i ∈ t, i ∈ s
  old : ∀ i ∈ s, i ∉ t → ∀ j, R i j → j ∈ s

namespace Carries

theorem mem_next (hf : Carries size R f) (h : IsFrontier size R s t) :
    j ∈ minus (f t) s ↔ (∃ i ∈ t, R i j) ∧ j ∉ s := by
  rw [mem_minus (hf.descending h.fresh) h.seen.descending, hf.mem h.fresh]

theorem mem_or_mem_next (hf : Carries size R f) (h : IsFrontier size R s t) (hi : i ∈ s)
    (hR : R i j) : j ∈ s ∨ j ∈ minus (f t) s := by
  by_cases hjs : j ∈ s
  · exact .inl hjs
  · by_cases hit : i ∈ t
    · exact .inr ((hf.mem_next h).mpr ⟨⟨i, hit, hR⟩, hjs⟩)
    · exact .inl (h.old i hi hit j hR)

theorem isFrontier_next (hf : Carries size R f) (h : IsFrontier size R s t) :
    IsFrontier size R (merge (minus (f t) s) s) (minus (f t) s) where
  seen := ((hf.isPositions h.fresh).minus s).merge h.seen
  fresh := (hf.isPositions h.fresh).minus s
  subset _ hi := mem_merge.mpr (.inl hi)
  old _ hi hit _ hR :=
    mem_merge.mpr (hf.mem_or_mem_next h ((mem_merge.mp hi).resolve_left hit) hR).symm

/-- What a round more comes to is seen, or comes from what is next. -/
theorem reached_next (hf : Carries size R f) (h : IsFrontier size R s t) :
    (j ∈ s ∨ ∃ k ≤ n + 1, ∃ i ∈ t, Steps R k i j) ↔
      j ∈ s ∨ ∃ k ≤ n, ∃ i ∈ minus (f t) s, Steps R k i j := by
  constructor
  · rintro (hj | ⟨k, hk, i, hi, hsteps⟩)
    · exact .inl hj
    · have hleads : ∀ i ∈ s, ∀ j, R i j → j ∈ s ∨ j ∈ minus (f t) s :=
        fun _ hi _ hR => hf.mem_or_mem_next h hi hR
      exact (steps_leave hleads (h.subset i hi) hsteps).imp_right
        fun ⟨m, hm, hrest⟩ => ⟨m, by omega, hrest⟩
  · rintro (hj | ⟨k, hk, i, hi, hsteps⟩)
    · exact .inl hj
    · obtain ⟨⟨i', hi', hR⟩, -⟩ := (hf.mem_next h).mp hi
      exact .inr ⟨k + 1, by omega, i', hi', i, hR, hsteps⟩

theorem closure (hf : Carries size R f) (h : IsFrontier size R s t) (n : Nat) :
    IsPositions size (closure f n s t) ∧
      ∀ j, j ∈ Regex.closure f n s t ↔ j ∈ s ∨ ∃ k ≤ n, ∃ i ∈ t, Steps R k i j := by
  induction n generalizing s t with
  | zero =>
    refine ⟨h.seen, fun j => ⟨.inl, ?_⟩⟩
    rintro (hj | ⟨k, hk, i, hi, hsteps⟩)
    · exact hj
    · obtain rfl := Nat.le_zero.mp hk
      exact hsteps ▸ h.subset i hi
  | succ n ih =>
    simp only [hf.reached_next h]
    rw [Regex.closure]
    split
    · next hnil =>
      rw [List.isEmpty_iff] at hnil
      exact ⟨h.seen, fun j => by simp [hnil]⟩
    · obtain ⟨hclosed, hiff⟩ := ih (hf.isFrontier_next h)
      refine ⟨hclosed, fun j => ?_⟩
      rw [hiff, mem_merge]
      constructor
      · rintro ((hj | hj) | hlater)
        · exact .inr ⟨0, Nat.zero_le n, j, hj, rfl⟩
        · exact .inl hj
        · exact .inr hlater
      · exact fun hreached => hreached.imp_left .inr

end Carries

/-! ## Expressions -/

def Expr.IsProper : Expr → Prop
  | .empty | .chars _ | .look _ => True
  | .seq a b | .alt a b => a.IsProper ∧ b.IsProper
  | .rep e least most => e.IsProper ∧ ∀ m, most = some m → least ≤ m

theorem Span.forward (h : Span text e i j) (hi : i ≤ text.size) : i ≤ j ∧ j ≤ text.size := by
  induction h with
  | empty => exact ⟨Nat.le_refl _, hi⟩
  | chars hget _ =>
    obtain ⟨hlt, -⟩ := Array.getElem?_eq_some_iff.mp hget
    exact ⟨Nat.le_succ _, hlt⟩
  | look _ => exact ⟨Nat.le_refl _, hi⟩
  | seq _ _ iha ihb =>
    have ha := iha hi
    have hb := ihb ha.2
    exact ⟨Nat.le_trans ha.1 hb.1, hb.2⟩
  | altFirst _ ih => exact ih hi
  | altSecond _ ih => exact ih hi
  | repDone => exact ⟨Nat.le_refl _, hi⟩
  | repMore _ _ _ iha ihb =>
    have ha := iha hi
    have hb := ihb ha.2
    exact ⟨Nat.le_trans ha.1 hb.1, hb.2⟩

/-- A repetition matches so many pieces of its body, one after the other. -/
theorem span_rep : Span text (.rep e least most) i j ↔
    ∃ n, least ≤ n ∧ (∀ m, most = some m → n ≤ m) ∧ Steps (Span text e) n i j := by
  constructor
  · intro h
    generalize hx : Expr.rep e least most = x at h
    induction h generalizing least most with
    | empty | chars | look | seq | altFirst | altSecond => cases hx
    | repDone =>
      cases hx
      exact ⟨0, Nat.le_refl 0, fun _ _ => Nat.zero_le _, rfl⟩
    | repMore hmost hbody _ _ ih =>
      cases hx
      obtain ⟨n, hleast, hn, hsteps⟩ := ih rfl
      refine ⟨n + 1, by omega, fun m hm => ?_, _, hbody, hsteps⟩
      subst hm
      have hle := hn (m - 1) rfl
      have hne : m ≠ 0 := fun heq => hmost (congrArg some heq)
      omega
  · rintro ⟨n, hleast, hn, hsteps⟩
    induction n generalizing i least most with
    | zero =>
      obtain rfl := Nat.le_zero.mp hleast
      obtain rfl : i = j := hsteps
      exact .repDone
    | succ n ih =>
      obtain ⟨k, hbody, hrest⟩ := hsteps
      refine .repMore ?_ hbody (ih (by omega) (fun m hm => ?_) hrest)
      · rintro rfl
        exact absurd (hn 0 rfl) (by omega)
      · obtain ⟨m', rfl, rfl⟩ := Option.map_eq_some_iff.mp hm
        have hle := hn m' rfl
        omega

theorem isPositions_positions (text : Array Char) : IsPositions text.size (positions text) where
  descending := List.pairwise_reverse.mpr List.pairwise_lt_range
  le i hi := by
    rw [positions, List.mem_reverse, List.mem_range] at hi
    omega

theorem mem_positions : i ∈ positions text ↔ i ≤ text.size := by
  rw [positions, List.mem_reverse, List.mem_range, Nat.lt_succ_iff]

theorem carries_empty (text : Array Char) :
    Carries text.size (Span text .empty) (ends text .empty) where
  forward := Span.forward
  descending hs := hs.descending
  mem {s} hs j := by
    refine ⟨fun hj => ⟨j, hj, .empty⟩, ?_⟩
    rintro ⟨i, hi, hspan⟩
    cases hspan
    exact hi

theorem carries_chars (text : Array Char) (set : CharSet) :
    Carries text.size (Span text (.chars set)) (ends text (.chars set)) where
  forward := Span.forward
  descending {s} hs := by
    have hkey : ∀ i j, j ∈ ends text (.chars set) [i] → j = i + 1 := by
      intro i j h
      rw [ends, List.mem_filterMap] at h
      obtain ⟨_, hi, h⟩ := h
      obtain rfl := List.mem_singleton.mp hi
      split at h
      · split at h
        · exact (Option.some.inj h).symm
        · cases h
      · cases h
    refine List.Pairwise.filterMap _ (fun i i' hlt j hj j' hj' => ?_) hs.descending
    have hi : j = i + 1 := hkey i j (List.mem_filterMap.mpr ⟨i, List.mem_singleton_self i, hj⟩)
    have hi' : j' = i' + 1 :=
      hkey i' j' (List.mem_filterMap.mpr ⟨i', List.mem_singleton_self i', hj'⟩)
    rw [hi, hi']
    exact Nat.succ_lt_succ hlt
  mem {s} hs j := by
    rw [ends, List.mem_filterMap]
    constructor
    · rintro ⟨i, hi, hstep⟩
      split at hstep
      · next c hget =>
        split at hstep
        · next hset =>
          obtain rfl := Option.some.inj hstep
          exact ⟨i, hi, .chars hget hset⟩
        · cases hstep
      · cases hstep
    · rintro ⟨i, hi, hspan⟩
      cases hspan with
      | chars hget hset => exact ⟨i, hi, by simp [hget, hset]⟩

theorem carries_look (text : Array Char) (condition : Look) :
    Carries text.size (Span text (.look condition)) (ends text (.look condition)) where
  forward := Span.forward
  descending hs := hs.descending.filter _
  mem {s} hs j := by
    rw [ends, List.mem_filter]
    constructor
    · rintro ⟨hj, hholds⟩
      exact ⟨j, hj, .look hholds⟩
    · rintro ⟨i, hi, hspan⟩
      cases hspan with
      | look hholds => exact ⟨hi, hholds⟩

theorem carries_seq {a b : Expr} (ha : Carries text.size (Span text a) (ends text a))
    (hb : Carries text.size (Span text b) (ends text b)) :
    Carries text.size (Span text (.seq a b)) (ends text (.seq a b)) := by
  have hends : ∀ s, ends text (.seq a b) s = if ends text a s = [] then [] else
      ends text b (ends text a s) := by
    intro s
    rw [ends]
    cases ends text a s <;> simp
  refine ⟨Span.forward, fun {s} hs => ?_, fun {s} hs j => ?_⟩
  · rw [hends]
    split
    · exact .nil
    · exact hb.descending (ha.isPositions hs)
  · have hmem : j ∈ ends text (.seq a b) s ↔ j ∈ ends text b (ends text a s) := by
      rw [hends]
      split
      · next hnil =>
        rw [hb.mem (ha.isPositions hs), hnil]
        simp
      · rfl
    rw [hmem, hb.mem (ha.isPositions hs)]
    constructor
    · rintro ⟨k, hk, hspan⟩
      obtain ⟨i, hi, hspan'⟩ := (ha.mem hs k).mp hk
      exact ⟨i, hi, .seq hspan' hspan⟩
    · rintro ⟨i, hi, hspan⟩
      cases hspan with
      | seq hspan' hspan => exact ⟨_, (ha.mem hs _).mpr ⟨i, hi, hspan'⟩, hspan⟩

theorem carries_alt {a b : Expr} (ha : Carries text.size (Span text a) (ends text a))
    (hb : Carries text.size (Span text b) (ends text b)) :
    Carries text.size (Span text (.alt a b)) (ends text (.alt a b)) where
  forward := Span.forward
  descending hs := pairwise_merge (ha.descending hs) (hb.descending hs)
  mem {s} hs j := by
    rw [ends, mem_merge, ha.mem hs, hb.mem hs]
    constructor
    · rintro (⟨i, hi, hspan⟩ | ⟨i, hi, hspan⟩)
      · exact ⟨i, hi, .altFirst hspan⟩
      · exact ⟨i, hi, .altSecond hspan⟩
    · rintro ⟨i, hi, hspan⟩
      cases hspan with
      | altFirst hspan => exact .inl ⟨i, hi, hspan⟩
      | altSecond hspan => exact .inr ⟨i, hi, hspan⟩

theorem Carries.rounds_closure (hf : Carries size R f) (hs : IsPositions size s) (least n : Nat) :
    IsPositions size (Regex.closure f n (Regex.rounds f least s) (Regex.rounds f least s)) ∧
      ∀ j, j ∈ Regex.closure f n (Regex.rounds f least s) (Regex.rounds f least s) ↔
        ∃ k ≤ n, ∃ i ∈ s, Steps R (least + k) i j := by
  obtain ⟨hrounds, hmem⟩ := hf.rounds hs least
  obtain ⟨hclosure, hiff⟩ := hf.closure
    ⟨hrounds, hrounds, fun _ => id, fun i hi hnot => absurd hi hnot⟩ n
  refine ⟨hclosure, fun j => ?_⟩
  rw [hiff]
  simp only [steps_add, hmem]
  constructor
  · rintro (⟨i, hi, hsteps⟩ | ⟨k, hk, i, ⟨i', hi', hfirst⟩, hrest⟩)
    · exact ⟨0, Nat.zero_le n, i, hi, j, hsteps, rfl⟩
    · exact ⟨k, hk, i', hi', i, hfirst, hrest⟩
  · rintro ⟨k, hk, i', hi', i, hfirst, hrest⟩
    exact .inr ⟨k, hk, i, ⟨i', hi', hfirst⟩, hrest⟩

/-- How many rounds beyond the least number of a repetition are tried. -/
def moreRounds (text : Array Char) (least : Nat) : Option Nat → Nat
  | some m => m - least
  | none => text.size + 1

theorem ends_rep (hs : IsPositions text.size s)
    (he : Carries text.size (Span text e) (ends text e)) :
    ends text (.rep e least most) s = closure (ends text e) (moreRounds text least most)
      (rounds (ends text e) least s) (rounds (ends text e) least s) := by
  rw [ends.eq_def]
  dsimp only
  split
  · next hnil =>
    rw [List.isEmpty_iff] at hnil
    refine (List.eq_nil_iff_forall_not_mem.mpr fun j hj => ?_).symm
    obtain ⟨k, -, i, hi, hsteps⟩ := ((he.rounds_closure hs least _).2 j).mp hj
    obtain ⟨i', hfirst, -⟩ := steps_add.mp hsteps
    have hmem := ((he.rounds hs least).2 i').mpr ⟨i, hi, hfirst⟩
    rw [hnil] at hmem
    cases hmem
  · cases most <;> rfl

theorem carries_rep (he : Carries text.size (Span text e) (ends text e))
    (hmost : ∀ m, most = some m → least ≤ m) :
    Carries text.size (Span text (.rep e least most)) (ends text (.rep e least most)) where
  forward := Span.forward
  descending hs := by
    rw [ends_rep hs he]
    exact (he.rounds_closure hs least _).1.descending
  mem {s} hs j := by
    rw [ends_rep hs he, (he.rounds_closure hs least _).2]
    simp only [span_rep]
    constructor
    · rintro ⟨k, hk, i, hi, hsteps⟩
      refine ⟨i, hi, least + k, Nat.le_add_right least k, fun m hm => ?_, hsteps⟩
      subst hm
      have hle := hmost m rfl
      simp only [moreRounds] at hk
      omega
    · rintro ⟨i, hi, n, hn, hbound, hsteps⟩
      obtain ⟨k, rfl⟩ := Nat.exists_eq_add_of_le hn
      cases most with
      | some m =>
        have hle := hbound m rfl
        exact ⟨k, by simp only [moreRounds]; omega, i, hi, hsteps⟩
      | none =>
        obtain ⟨i', hfirst, hrest⟩ := steps_add.mp hsteps
        have hi' := steps_forward Span.forward hfirst (hs.le i hi)
        have hj := steps_forward Span.forward hrest hi'.2
        obtain ⟨k', hk', hshort⟩ := exists_steps_le Span.forward hrest hi'.2
        refine ⟨k', ?_, i, hi, steps_add.mpr ⟨i', hfirst, hshort⟩⟩
        simp only [moreRounds]
        omega

/-- Positions are carried along exactly the pieces that an expression matches. -/
theorem carries_ends (text : Array Char) {e : Expr} (he : e.IsProper) :
    Carries text.size (Span text e) (ends text e) := by
  induction e with
  | empty => exact carries_empty text
  | chars set => exact carries_chars text set
  | look condition => exact carries_look text condition
  | seq a b iha ihb => exact carries_seq (iha he.1) (ihb he.2)
  | alt a b iha ihb => exact carries_alt (iha he.1) (ihb he.2)
  | rep e least most ih => exact carries_rep (ih he.1) he.2

theorem Expr.isMatch_iff {e : Expr} (he : e.IsProper) (text : String) :
    e.isMatch text = true ↔ ∃ i j, i ≤ text.toList.length ∧ Span text.toList.toArray e i j := by
  have hmem := (carries_ends text.toList.toArray he).mem (isPositions_positions _)
  rw [isMatch, Bool.not_eq_true', ← Bool.not_eq_true, List.isEmpty_iff,
    List.eq_nil_iff_forall_not_mem, not_forall]
  simp only [not_not, hmem, mem_positions, List.size_toArray]
  exact ⟨fun ⟨j, i, hi, hspan⟩ => ⟨i, j, hi, hspan⟩, fun ⟨i, j, hi, hspan⟩ => ⟨j, i, hi, hspan⟩⟩

end Conformance.Regex
