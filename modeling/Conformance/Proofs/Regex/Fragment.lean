import Conformance.Proofs.Regex.Reader
import Conformance.Regex.Basic

/-!
# Fragments of patterns

A fragment that is read to its end by itself is read in the same way within groups, with a closing
parenthesis behind it. What follows that parenthesis is read from where the group has come to.
-/
namespace Conformance.Regex

variable {r r' : Reading} {s rest : List Char} {c : Char}

namespace Reading

/-! ## Within groups -/

/-- The reading where it goes on within further levels and after further names. -/
def inside (r : Reading) (levels : List Level) (names : List String) : Reading :=
  { r with outer := r.outer ++ levels, names := r.names ++ names }

def answerInside (levels : List Level) (names : List String) (found : Reading × List Char) :
    Reading × List Char :=
  (found.1.inside levels names, found.2)

theorem openNamed_inside (r : Reading) (levels : List Level) (names : List String)
    (s : List Char) : (r.inside levels names).openNamed s =
      (r.openNamed s).map (answerInside levels names) := by
  unfold openNamed
  cases readName s <;> rfl

theorem readFlagged_inside (r : Reading) (levels : List Level) (names : List String)
    (s : List Char) : (r.inside levels names).readFlagged s =
      (r.readFlagged s).map (answerInside levels names) := by
  show (readFlags r.level.flags [] s >>= _) = Except.map _ (readFlags r.level.flags [] s >>= _)
  cases readFlags r.level.flags [] s with
  | error fault => rfl
  | ok found =>
    obtain ⟨flags, rest⟩ := found
    by_cases hhead : (s.head? == some ')') = true
    · simp only [bind, Except.bind, if_pos hhead]
      rfl
    · simp only [bind, Except.bind, if_neg hhead]
      split <;> rfl

theorem readKind_inside (r : Reading) (levels : List Level) (names : List String)
    (s : List Char) : (r.inside levels names).readKind s =
      (r.readKind s).map (answerInside levels names) := by
  unfold readKind
  split
  · rfl
  · rfl
  · rfl
  · rfl
  · exact openNamed_inside r levels names _
  · exact openNamed_inside r levels names _
  · exact readFlagged_inside r levels names s

theorem readGroup_inside (r : Reading) (levels : List Level) (names : List String)
    (s : List Char) : (r.inside levels names).readGroup s =
      (r.readGroup s).map (answerInside levels names) := by
  have hflags : (r.inside levels names).level.flags = r.level.flags := rfl
  rw [readGroup, readGroup, hflags]
  split
  · exact readKind_inside r levels names _
  · rfl

theorem repeatLast_inside (r : Reading) (levels : List Level) (names : List String) (least : Nat)
    (most : Option Nat) (s : List Char) : (r.inside levels names).repeatLast least most s =
      (r.repeatLast least most s).map (answerInside levels names) := by
  show (r.level.repeatLast least most >>= _) = Except.map _ (r.level.repeatLast least most >>= _)
  cases r.level.repeatLast least most with
  | error fault => rfl
  | ok l => 
    simp only [bind, Except.bind]
    split <;> rfl

/-- But for the closing of groups, no step depends on what is around the innermost level. -/
theorem step_inside (hc : c ≠ ')') (r : Reading) (levels : List Level) (names : List String)
    (s : List Char) : (r.inside levels names).step c s =
      (r.step c s).map (answerInside levels names) := by
  by_cases hsign : c ∈ signs
  · simp only [signs, List.mem_cons, List.not_mem_nil, or_false, hc, false_or] at hsign
    rcases hsign with rfl | rfl | rfl | rfl | rfl | rfl | rfl | rfl | rfl | rfl | rfl
    · exact readGroup_inside r levels names s
    · rfl
    · show (readClass r.level.flags s >>= _) = Except.map _ (readClass r.level.flags s >>= _)
      cases readClass r.level.flags s <;> rfl
    · exact repeatLast_inside r levels names 0 (some 1) s
    · exact repeatLast_inside r levels names 0 none s
    · exact repeatLast_inside r levels names 1 none s
    · show (readCounts r.level.flags s >>= _) = Except.map _ (readCounts r.level.flags s >>= _)
      cases readCounts r.level.flags s with
      | error fault => rfl
      | ok counts => exact repeatLast_inside r levels names _ _ _
    · show (readEscape r.level.flags s >>= _) = Except.map _ (readEscape r.level.flags s >>= _)
      cases readEscape r.level.flags s <;> rfl
    · show (r.level.addAny >>= _) = Except.map _ (r.level.addAny >>= _)
      cases r.level.addAny <;> rfl
    · rfl
    · rfl
  · rw [step_of_notMem _ hsign, step_of_notMem _ hsign]
    rfl

/-- A step goes within groups as it does without, unless it closes a group that is not open. -/
theorem step_inside_ok (h : r.step c s = .ok (r', rest)) (levels : List Level)
    (names : List String) :
    (r.inside levels names).step c s = .ok (r'.inside levels names, rest) := by
  by_cases hc : c = ')'
  · subst hc
    obtain ⟨l, ls, houter, rfl, rfl⟩ := step_paren_ok h
    refine Except.bind_eq_ok.mpr ⟨_, ?_, rfl⟩
    simp only [closeGroup, inside, houter, List.cons_append]
  · rw [step_inside hc, h]
    rfl

/-! ## Reading on -/

theorem readAll_eq (r : Reading) (s : List Char) : r.readAll s =
    (match r.level.flags.skip s with
    | [] => .ok r
    | c :: rest => do
      let (next, left) ← r.step c rest
      if left.length ≤ rest.length then next.readAll left else throw .stuck) := by
  rw [readAll]
  split
  · next h => simp only [h]
  · next c rest h => simp only [h]

theorem readAll_of_skip (h : r.level.flags.skip s = r.level.flags.skip rest) :
    r.readAll s = r.readAll rest := by
  rw [readAll_eq, h, ← readAll_eq]

/-- What a reading comes to in any number of steps, each of which leaves less of the text. -/
inductive Reaches : Reading → List Char → Reading → List Char → Prop where
  | refl {r : Reading} {s : List Char} : Reaches r s r s
  | step {r next r' : Reading} {c : Char} {s t left rest : List Char} :
    r.level.flags.skip s = c :: t → r.step c t = .ok (next, left) → left.length ≤ t.length →
    Reaches next left r' rest → Reaches r s r' rest

/-- All comments that are passed over on the way end in the text. -/
def IsSteady (r : Reading) (s : List Char) : Prop :=
  ∀ r' rest, Reaches r s r' rest → IsCalm r'.level.flags rest

theorem IsSteady.calm (h : IsSteady r s) : IsCalm r.level.flags s :=
  h r s .refl

theorem IsSteady.reached (h : IsSteady r s) (hreach : Reaches r s r' rest) : IsSteady r' rest := by
  induction hreach with
  | refl => exact h
  | step hskip hstep hle _ ih =>
    exact ih fun r'' rest'' hlater => h r'' rest'' (.step hskip hstep hle hlater)

theorem Reaches.readAll (h : Reaches r s r' rest) : r.readAll s = r'.readAll rest := by
  induction h with
  | refl => rfl
  | step hskip hstep hle _ ih =>
    rw [readAll_eq, hskip]
    simp only [hstep]
    exact (if_pos hle).trans ih

theorem Reaches.trans {r₁ : Reading} {t : List Char} (h : Reaches r s r₁ rest)
    (hlater : Reaches r₁ rest r' t) : Reaches r s r' t := by
  induction h with
  | refl => exact hlater
  | step hskip hstep hle _ ih => exact .step hskip hstep hle (ih hlater)

/-- A reading goes to the end of the text, or comes to a step that fails. -/
theorem exists_reaches (r : Reading) (s : List Char) : ∃ r' rest, Reaches r s r' rest ∧
    (r'.level.flags.skip rest = [] ∧ r.readAll s = .ok r' ∨
      ∃ c t, r'.level.flags.skip rest = c :: t ∧ ∃ fault, r.readAll s = .error fault ∧
        (r'.step c t = .error fault ∨
          fault = .stuck ∧ ∃ next left, r'.step c t = .ok (next, left) ∧ t.length < left.length)) := by
  induction hlength : s.length using Nat.strongRecOn generalizing r s with
  | _ n ih =>
    have hsuffix := skip_suffix r.level.flags s
    cases hskip : r.level.flags.skip s with
    | nil => exact ⟨r, s, .refl, .inl ⟨hskip, by rw [readAll_eq, hskip]⟩⟩
    | cons c t =>
      cases hstep : r.step c t with
      | error fault =>
        refine ⟨r, s, .refl, .inr ⟨c, t, hskip, fault, ?_, .inl hstep⟩⟩
        rw [readAll_eq, hskip]
        simp only [hstep]
        rfl
      | ok found =>
        obtain ⟨next, left⟩ := found
        by_cases hle : left.length ≤ t.length
        · have hlt : left.length < n := by
            have hshort := (hskip ▸ hsuffix).length_le
            rw [List.length_cons] at hshort
            omega
          obtain ⟨r', rest, hreach, hend⟩ := ih left.length hlt next left rfl
          have hfirst : Reaches r s r' rest := .step hskip hstep hle hreach
          have hsame : next.readAll left = r.readAll s := by rw [hfirst.readAll, hreach.readAll]
          exact ⟨r', rest, hfirst, hsame ▸ hend⟩
        · refine ⟨r, s, .refl, .inr ⟨c, t, hskip, .stuck, ?_, .inr ⟨rfl, next, left, hstep, ?_⟩⟩⟩
          · rw [readAll_eq, hskip]
            simp only [hstep]
            exact if_neg hle
          · omega

theorem exists_reaches_of_readAll (h : r.readAll s = .ok r') :
    ∃ rest, Reaches r s r' rest ∧ r'.level.flags.skip rest = [] := by
  obtain ⟨r₁, rest, hreach, ⟨hend, hread⟩ | ⟨c, t, -, fault, hread, -⟩⟩ := exists_reaches r s
  · cases h.symm.trans hread
    exact ⟨rest, hreach, hend⟩
  · cases h.symm.trans hread

theorem Reaches.inside (h : Reaches r s r' rest) (levels : List Level) (names : List String) :
    Reaches (r.inside levels names) s (r'.inside levels names) rest := by
  induction h with
  | refl => exact .refl
  | step hskip hstep hle _ ih => exact .step hskip (step_inside_ok hstep levels names) hle ih

/-- What a steady reading comes to, it comes to whatever stands behind a closing parenthesis. -/
theorem Reaches.append (h : Reaches r s r' rest) (hsteady : IsSteady r s) (w : List Char) :
    Reaches r (s ++ ')' :: w) r' (rest ++ ')' :: w) := by
  induction h with
  | refl => exact .refl
  | @step r next r' c s t left rest hskip hstep hle hreach ih =>
    have hcalm := hsteady.calm
    have ht := (List.suffix_cons c t).trans (hskip ▸ skip_suffix r.level.flags s)
    have hlater : IsSteady next left := hsteady.reached (.step hskip hstep hle .refl)
    refine .step (c := c) (t := t ++ ')' :: w) ?_ ((isLocal_step r c (hcalm.suffix ht) hstep).2 w) ?_
      (ih hlater)
    · rw [skip_append hcalm, hskip]
      rfl
    · simp only [List.length_append]
      omega

theorem readAll_inside (hsteady : IsSteady r s) (h : r.readAll s = .ok r') (levels : List Level)
    (names : List String) (w : List Char) :
    (r.inside levels names).readAll (s ++ ')' :: w) =
      (r'.inside levels names).readAll (')' :: w) := by
  obtain ⟨rest, hreach, hend⟩ := exists_reaches_of_readAll h
  rw [((hreach.append hsteady w).inside levels names).readAll]
  refine readAll_of_skip ?_
  show r'.level.flags.skip _ = r'.level.flags.skip _
  rw [skip_append (hsteady.reached hreach).calm, hend, skip_paren]
  rfl

theorem readAll_inside_ok (h : r.readAll s = .ok r') (levels : List Level)
    (names : List String) : (r.inside levels names).readAll s = .ok (r'.inside levels names) := by
  obtain ⟨rest, hreach, hend⟩ := exists_reaches_of_readAll h
  have hend' : (r'.inside levels names).level.flags.skip rest = [] := hend
  rw [(hreach.inside levels names).readAll, readAll_eq, hend']

theorem readAll_nil (r : Reading) : r.readAll [] = .ok r := by
  rw [readAll_eq, List.suffix_nil.mp (skip_suffix r.level.flags [])]

theorem reaches_paren (hsteady : IsSteady r s) (h : r.readAll (s ++ [')']) = .ok r')
    (w : List Char) : Reaches r (s ++ ')' :: w) r' w := by
  obtain ⟨r₁, rest, hreach, ⟨hend, -⟩ | ⟨c, t, hskip, fault, -, hend⟩⟩ := exists_reaches r s
  · have hcalm := (hsteady.reached hreach).calm
    have hskip : ∀ w, r₁.level.flags.skip (rest ++ ')' :: w) = ')' :: w := fun w => by
      rw [skip_append hcalm, hend]
      rfl
    rw [(hreach.append hsteady []).readAll, readAll_eq, hskip] at h
    obtain ⟨⟨next, left⟩, hstep, h⟩ := Except.bind_eq_ok.mp h
    obtain ⟨next, hclose, hstep⟩ := Except.bind_eq_ok.mp hstep
    cases hstep
    cases (readAll_nil next).symm.trans h
    have hstep' : r₁.step ')' w = .ok (r', w) := Except.bind_eq_ok.mpr ⟨_, hclose, rfl⟩
    exact (hreach.append hsteady w).trans (.step (hskip w) hstep' (Nat.le_refl _) .refl)
  · have hcalm := (hsteady.reached hreach).calm
    have ht := hcalm.suffix
      ((List.suffix_cons c t).trans (hskip ▸ skip_suffix r₁.level.flags rest))
    have hskip' : ∀ w, r₁.level.flags.skip (rest ++ ')' :: w) = c :: (t ++ ')' :: w) := fun w => by
      rw [skip_append hcalm, hskip]
      rfl
    rw [(hreach.append hsteady []).readAll, readAll_eq, hskip'] at h
    obtain ⟨⟨next, left⟩, hstep, h⟩ := Except.bind_eq_ok.mp h
    rcases takesParen_step r₁ c ht hstep with ⟨left', hleft⟩ | hagain
    · rcases hend with hfailed | ⟨-, next', left'', hstep', hlt⟩
      · cases hfailed.symm.trans hleft
      · have hshort := (isLocal_step r₁ c ht hstep').1.length_le
        omega
    · cases (hagain []).symm.trans hstep
      cases (readAll_nil next).symm.trans ((if_pos (Nat.zero_le _)).symm.trans h)
      refine (hreach.append hsteady w).trans (.step (hskip' w) (hagain w) ?_ .refl)
      rw [List.length_append, List.length_cons]
      omega

end Reading

/-! ## Quiet text -/

/-- Text without marks that mean something, but for dollar signs and `n` closing parentheses. -/
inductive IsQuiet : Nat → List Char → Prop where
  | nil : IsQuiet 0 []
  | plain {n : Nat} {c : Char} {s : List Char} : isMeta c = false → IsQuiet n s → IsQuiet n (c :: s)
  | escaped {n : Nat} {c : Char} {s : List Char} : isMeta c = true → IsQuiet n s →
    IsQuiet n ('\\' :: c :: s)
  | dollar {n : Nat} {s : List Char} : IsQuiet n s → IsQuiet n ('$' :: s)
  | close {n : Nat} {s : List Char} : IsQuiet n s → IsQuiet (n + 1) (')' :: s)

theorem IsQuiet.skip {n : Nat} (flags : Flags) (h : IsQuiet n s) : IsQuiet n (flags.skip s) := by
  have hverbose : ∀ {s}, IsQuiet n s → IsQuiet n (skipVerbose s) := by
    intro s h
    fun_induction skipVerbose s with
    | case1 => exact h
    | case2 c rest hblank ih =>
      cases h with
      | plain _ hrest => exact ih hrest
      | escaped | dollar | close => exact absurd hblank (by decide)
    | case3 c rest _ hcomment ih =>
      cases h with
      | plain hc _ =>
        rw [beq_iff_eq.mp hcomment] at hc
        exact absurd hc (by decide)
      | escaped | dollar | close => exact absurd hcomment (by decide)
    | case4 => exact h
  rw [Flags.skip]
  split
  · exact hverbose h
  · exact h

namespace Reading

theorem step_quiet {n : Nat} (hs : IsQuiet n (c :: s)) (h : r.step c s = .ok (r', rest)) :
    ∃ m, IsQuiet m rest ∧ r.outer.length + m = r'.outer.length + n := by
  cases hs with
  | plain hc hs =>
    rw [step_of_notMem r (notMem_signs hc)] at h
    cases h
    exact ⟨n, hs, rfl⟩
  | escaped hc hs =>
    simp only [step, readEscape_of_isMeta _ hc] at h
    cases h
    exact ⟨n, hs, rfl⟩
  | dollar hs =>
    cases h
    exact ⟨n, hs, rfl⟩
  | @close m _ hs =>
    obtain ⟨l, ls, houter, rfl, rfl⟩ := step_paren_ok h
    refine ⟨m, hs, ?_⟩
    rw [houter, List.length_cons]
    dsimp only
    omega

theorem Reaches.quiet {n : Nat} (h : Reaches r s r' rest) (hs : IsQuiet n s) :
    ∃ m, IsQuiet m rest ∧ r.outer.length + m = r'.outer.length + n := by
  induction h generalizing n with
  | refl => exact ⟨n, hs, rfl⟩
  | @step r next r' c s t left rest hskip hstep hle hreach ih =>
    obtain ⟨m, hleft, hm⟩ := step_quiet (hskip ▸ hs.skip r.level.flags) hstep
    obtain ⟨k, hrest, hk⟩ := ih hleft
    exact ⟨k, hrest, by omega⟩

/-- Quiet text closes as many groups as it has parentheses. -/
theorem readAll_quiet {n : Nat} (hs : IsQuiet n s) (h : r.readAll s = .ok r') :
    r.outer.length = r'.outer.length + n := by
  obtain ⟨rest, hreach, hend⟩ := exists_reaches_of_readAll h
  obtain ⟨m, hrest, hm⟩ := hreach.quiet hs
  have hnil := hrest.skip r'.level.flags
  rw [hend] at hnil
  cases hnil
  exact hm

end Reading
end Conformance.Regex
