import Conformance.Proofs.Regex.Fragment
import Conformance.Proofs.Regex.Strict

/-!
# Readings side by side

Two readings of one text go side by side where the one is under stricter flags than the other, within
as many groups as the other and perhaps some more.
-/
namespace Conformance.Regex

open Conformance.Except (Follows)

variable {f g : Flags} {l m : Level} {r r' q q' : Reading} {bottom : List Level}
  {s rest : List Char} {c : Char}

theorem readFlags_follows (h : f.IsStricter g) (seen : List Char) (s : List Char) :
    Follows (Beside Flags.IsStricter) (readFlags f seen s) (readFlags g seen s) := by
  induction s generalizing f g seen with
  | nil => exact .error
  | cons c s ih =>
    unfold readFlags
    split
    · split
      · exact .error
      · exact .ok ⟨h, rfl⟩
    · split
      · exact .error
      · dsimp only
        split
        iterate 5
          refine ih ?_ _
          exact ⟨h.verbose, h.unicode⟩
        · refine ih ?_ _
          exact ⟨h.verbose, id⟩
        · refine ih ?_ _
          exact ⟨h.verbose, h.unicode⟩
        · refine ih ?_ _
          exact ⟨rfl, h.unicode⟩
        · exact .error

namespace Level

def IsRepeatable (l : Level) : Prop :=
  ∃ p ps, l.pieces = p :: ps ∧ p.isDirective = false

/-- What can be read on this level can be read on the other. -/
structure IsStricter (l m : Level) : Prop where
  flags : l.flags.IsStricter m.flags
  last : l.IsRepeatable → m.IsRepeatable

theorem repeatLast_follows (h : l.IsStricter m) (least : Nat) (most : Option Nat) :
    Follows IsStricter (l.repeatLast least most) (m.repeatLast least most) := by
  unfold Level.repeatLast
  split
  · exact .error
  · next p ps hl =>
    split
    · exact .error
    · next hp =>
      obtain ⟨q, qs, hm, hq⟩ := h.last ⟨p, ps, hl, by simpa using hp⟩
      simp only [hm, hq]
      exact .ok ⟨h.flags, fun _ => ⟨_, _, rfl, rfl⟩⟩

theorem push_isStricter {p q : Piece} (h : l.flags.IsStricter m.flags)
    (hq : q.isDirective = p.isDirective) : (l.push p).IsStricter (m.push q) := by
  refine ⟨h, ?_⟩
  rintro ⟨_, _, heq, hp⟩
  cases heq
  exact ⟨q, m.pieces, rfl, hq.trans hp⟩

theorem addAny_follows (h : l.IsStricter m) :
    Follows IsStricter l.addAny m.addAny := by
  unfold addAny
  by_cases hl : l.flags.unicode = true
  · simp only [hl, h.flags.unicode hl]
    exact .ok (push_isStricter h.flags rfl)
  · simp only [hl]
    exact .error

end Level

namespace Reading

structure IsStricter (bottom : List Level) (r q : Reading) : Prop where
  level : r.level.IsStricter q.level
  outer : ∃ ls, r.outer = ls ++ bottom ∧
    List.Forall₂ (fun l m => Flags.IsStricter l.flags m.flags) ls q.outer

theorem IsStricter.withLevel (h : r.IsStricter bottom q) (hl : l.IsStricter m) :
    (r.withLevel l).IsStricter bottom (q.withLevel m) :=
  ⟨hl, h.outer⟩

theorem IsStricter.push {p p' : Piece} (h : IsStricter bottom r q)
    (hp : p'.isDirective = p.isDirective) :
    IsStricter bottom (r.withLevel (r.level.push p)) (q.withLevel (q.level.push p')) :=
  h.withLevel (Level.push_isStricter h.level.flags hp)

theorem IsStricter.openGroup (h : IsStricter bottom r q) (hflags : f.IsStricter g) :
    IsStricter bottom (r.openGroup f) (q.openGroup g) := by
  obtain ⟨ls, houter, hls⟩ := h.outer
  refine ⟨⟨hflags, ?_⟩, r.level :: ls, congrArg (r.level :: ·) houter, .cons h.level.flags hls⟩
  rintro ⟨_, _, hnil, -⟩
  cases hnil

theorem openNamed_follows (h : IsStricter bottom r q) (s : List Char) :
    Follows (Beside (IsStricter bottom)) (r.openNamed s) (q.openNamed s) := by
  unfold openNamed
  cases readName s with
  | error fault => exact .error
  | ok found =>
    have hopen := h.openGroup h.level.flags
    exact .ok ⟨⟨hopen.level, hopen.outer⟩, rfl⟩

theorem readFlagged_follows (h : IsStricter bottom r q) (s : List Char) :
    Follows (Beside (IsStricter bottom)) (r.readFlagged s) (q.readFlagged s) := by
  refine (readFlags_follows h.level.flags [] s).bind ?_
  rintro ⟨inside, rest⟩ ⟨inside', _⟩ ⟨hflags, rfl⟩
  dsimp only
  split
  · exact .error
  · split
    · refine .ok ⟨h.withLevel ⟨hflags, ?_⟩, rfl⟩
      rintro ⟨_, _, heq, hp⟩
      cases heq
      cases hp
    · exact .ok ⟨h.openGroup hflags, rfl⟩

theorem readKind_follows (h : IsStricter bottom r q) (s : List Char) :
    Follows (Beside (IsStricter bottom)) (r.readKind s) (q.readKind s) := by
  unfold readKind
  split
  iterate 4 exact .error
  · exact openNamed_follows h _
  · exact openNamed_follows h _
  · exact readFlagged_follows h _

theorem readGroup_follows (h : IsStricter bottom r q) (s : List Char) :
    Follows (Beside (IsStricter bottom)) (r.readGroup s) (q.readGroup s) := by
  unfold readGroup
  rw [h.level.flags.skip]
  split
  · exact readKind_follows h _
  · exact .ok ⟨h.openGroup h.level.flags, rfl⟩

theorem repeatLast_follows (h : IsStricter bottom r q) (least : Nat) (most : Option Nat)
    (s : List Char) : Follows (Beside (IsStricter bottom)) (r.repeatLast least most s)
      (q.repeatLast least most s) := by
  refine (Level.repeatLast_follows h.level least most).bind fun l m hl => ?_
  split
  · exact .ok ⟨h.withLevel hl, rfl⟩
  · exact .ok ⟨h.withLevel hl, rfl⟩

theorem readCounts_of_isStricter (h : f.IsStricter g) (s : List Char) :
    readCounts f s = readCounts g s := by
  simp only [readCounts, readMost, readLimit, readCount_of_isStricter h, h.skip]

theorem step_follows (h : IsStricter bottom r q) (hc : c ≠ ')') (s : List Char) :
    Follows (Beside (IsStricter bottom)) (r.step c s) (q.step c s) := by
  by_cases hsign : c ∈ signs
  · simp only [signs, List.mem_cons, List.not_mem_nil, or_false, hc, false_or] at hsign
    rcases hsign with rfl | rfl | rfl | rfl | rfl | rfl | rfl | rfl | rfl | rfl | rfl
    · exact readGroup_follows h s
    · refine .ok ⟨h.withLevel ⟨h.level.flags, ?_⟩, rfl⟩
      rintro ⟨_, _, hnil, -⟩
      cases hnil
    · refine (readClass_follows h.level.flags s).bind ?_
      rintro ⟨set, depth, rest⟩ ⟨set', depth', _⟩ rfl
      exact .ok ⟨h.push rfl, rfl⟩
    · exact repeatLast_follows h 0 (some 1) s
    · exact repeatLast_follows h 0 none s
    · exact repeatLast_follows h 1 none s
    · show Follows _ (readCounts r.level.flags s >>= _) (readCounts q.level.flags s >>= _)
      rw [readCounts_of_isStricter h.level.flags]
      cases readCounts q.level.flags s with
      | error fault => exact .error
      | ok counts =>
        simp only [h.level.flags.skip]
        exact repeatLast_follows h _ _ _
    · refine (readEscape_follows h.level.flags s).bind ?_
      rintro ⟨a, rest⟩ ⟨b, _⟩ ⟨hab, rfl⟩
      refine .ok ⟨?_, rfl⟩
      cases hab <;> exact h.push rfl
    · exact (Level.addAny_follows h.level).bind fun l m hl => .ok ⟨h.withLevel hl, rfl⟩
    · exact .ok ⟨h.push rfl, rfl⟩
    · exact .ok ⟨h.push rfl, rfl⟩
  · rw [step_of_notMem r hsign, step_of_notMem q hsign]
    exact .ok ⟨h.push rfl, rfl⟩

theorem closeGroup_follows (h : IsStricter bottom r q) (hq : q.outer ≠ []) :
    Follows (IsStricter bottom) r.closeGroup q.closeGroup := by
  obtain ⟨ls, houter, hls⟩ := h.outer
  cases hq' : q.outer with
  | nil => exact (hq hq').elim
  | cons m ms =>
    rw [hq'] at hls
    cases hls with
    | @cons l _ ls _ hfirst hrest =>
      simp only [closeGroup, houter, hq', List.cons_append]
      exact .ok ⟨Level.push_isStricter hfirst rfl, ls, rfl, hrest⟩

/-! ## Readings side by side -/

/-- A reading under fewer flags passes all that the stricter one passes, as long as its groups are
open. -/
theorem step_of_isStricter (h : IsStricter bottom r q)
    (hq : c = ')' → q.outer ≠ []) (hstep : r.step c s = .ok (r', rest)) :
    ∃ q', q.step c s = .ok (q', rest) ∧ IsStricter bottom r' q' := by
  have hfollows : Follows (Beside (IsStricter bottom)) (r.step c s) (q.step c s) := by
    by_cases hc : c = ')'
    · subst hc
      exact (closeGroup_follows h (hq rfl)).bind fun _ _ hclosed => .ok ⟨hclosed, rfl⟩
    · exact step_follows h hc s
  obtain ⟨⟨q', _⟩, hstep', hnext, rfl⟩ := hfollows _ hstep
  exact ⟨q', hstep', hnext⟩

theorem step_paren_of_nil (h : r.outer = []) (s : List Char) :
    r.step ')' s = .error .unopenedGroup := by
  simp only [step, closeGroup, h]
  rfl

theorem Reaches.of_isStricter (hreach : Reaches r s r' rest)
    (h : IsStricter bottom r q) : (∃ q', Reaches q s q' rest ∧ IsStricter bottom r' q') ∨
      q.readAll s = .error .unopenedGroup := by
  induction hreach generalizing q with
  | refl => exact .inl ⟨q, .refl, h⟩
  | @step r next r' c s t left rest hskip hstep hle _ ih =>
    rw [h.level.flags.skip] at hskip
    by_cases hopen : c = ')' ∧ q.outer = []
    · obtain ⟨rfl, hnil⟩ := hopen
      refine .inr ?_
      rw [readAll_eq, hskip]
      simp only [step_paren_of_nil hnil]
      rfl
    · obtain ⟨q', hstep', hnext⟩ := step_of_isStricter h (not_and.mp hopen) hstep
      refine (ih hnext).imp (fun ⟨q'', hreach', h'⟩ => ⟨q'', .step hskip hstep' hle hreach', h'⟩) ?_
      intro herror
      exact (Reaches.step hskip hstep' hle .refl).readAll.trans herror

/-- Where the stricter reading comes to its end, so does the other, unless it closes a group that is
not open. -/
theorem readAll_of_isStricter (h : IsStricter bottom r q)
    (hread : r.readAll s = .ok r') : (∃ q', q.readAll s = .ok q' ∧ IsStricter bottom r' q') ∨
      q.readAll s = .error .unopenedGroup := by
  obtain ⟨rest, hreach, hend⟩ := exists_reaches_of_readAll hread
  refine (hreach.of_isStricter h).imp_left fun ⟨q', hreach', hq'⟩ => ⟨q', ?_, hq'⟩
  rw [hq'.level.flags.skip] at hend
  rw [hreach'.readAll, readAll_eq, hend]

/-- A stricter reading that comes to its end passes all places that the other passes. -/
theorem Reaches.isStricter (hreach : Reaches q s q' rest)
    (h : IsStricter bottom r q) (hread : r.readAll s = .ok r') :
    ∃ r₁, Reaches r s r₁ rest ∧ IsStricter bottom r₁ q' := by
  induction hreach generalizing r with
  | refl => exact ⟨r, .refl, h⟩
  | @step q next q' c s t left rest hskip hstep hle _ ih =>
    rw [← h.level.flags.skip] at hskip
    rw [readAll_eq, hskip] at hread
    obtain ⟨⟨next', left'⟩, hstep', hread⟩ := Except.bind_eq_ok.mp hread
    have hopen : c = ')' → q.outer ≠ [] := by
      rintro rfl hnil
      cases hstep.symm.trans (step_paren_of_nil hnil _)
    obtain ⟨q'', hstep'', hnext⟩ := step_of_isStricter h hopen hstep'
    cases hstep.symm.trans hstep''
    obtain ⟨r₁, hreach', h'⟩ := ih hnext ((if_pos hle).symm.trans hread)
    exact ⟨r₁, .step hskip hstep' hle hreach', h'⟩

end Reading

end Conformance.Regex
