import Conformance.Proofs.Regex.Fragment
import Conformance.Proofs.Regex.Spans

/-!
# Bounds of repetitions

In the expression of a pattern the bounds of all repetitions are in order, so that matching finds
exactly the pieces that the expression matches.
-/
namespace Conformance.Regex

variable {e : Expr} {r r' : Reading} {l : Level} {p : Piece} {s rest : List Char} {c : Char}

namespace Expr

theorem isProper_ofSeq {es : List Expr} (h : ∀ e ∈ es, e.IsProper) : (ofSeq es).IsProper := by
  induction es with
  | nil => trivial
  | cons e es ih =>
    rw [List.forall_mem_cons] at h
    cases es with
    | nil => exact h.1
    | cons e' es => exact ⟨h.1, ih h.2⟩

theorem isProper_ofAlt {es : List Expr} (h : ∀ e ∈ es, e.IsProper) : (ofAlt es).IsProper := by
  induction es with
  | nil => trivial
  | cons e es ih =>
    rw [List.forall_mem_cons] at h
    cases es with
    | nil => exact h.1
    | cons e' es => exact ⟨h.1, ih h.2⟩

theorem isProper_repeated {least : Nat} {most : Option Nat} (he : e.IsProper)
    (h : ∀ m, most = some m → least ≤ m) : (e.repeated least most).IsProper := by
  unfold repeated
  split
  · refine ⟨he, fun m hm => ?_⟩
    cases hm
    cases most with
    | none => exact Nat.min_le_right least 1
    | some m =>
      have hle := h m rfl
      simp only [Option.getD_some]
      omega
  · exact ⟨he, h⟩

end Expr

structure Level.IsProper (l : Level) : Prop where
  pieces : ∀ p ∈ l.pieces, p.expr.IsProper
  branches : ∀ p ∈ l.branches, p.expr.IsProper

theorem isProper_joinPieces {ps : List Piece} (h : ∀ p ∈ ps, p.expr.IsProper) :
    (joinPieces ps).expr.IsProper := by
  unfold joinPieces
  split
  · trivial
  · exact h _ List.mem_cons_self
  · refine Expr.isProper_ofSeq fun e he => ?_
    obtain ⟨p, hp, rfl⟩ := List.mem_map.mp he
    exact h p (List.mem_reverse.mp hp)

theorem isProper_joinBranches {ps : List Piece} (h : ∀ p ∈ ps, p.expr.IsProper) :
    (joinBranches ps).expr.IsProper := by
  unfold joinBranches
  split
  · exact h _ List.mem_cons_self
  · refine Expr.isProper_ofAlt fun e he => ?_
    obtain ⟨p, hp, rfl⟩ := List.mem_map.mp he
    exact h p (List.mem_reverse.mp hp)

namespace Level

theorem isProper_start (flags : Flags) : (start flags).IsProper :=
  ⟨fun _ h => absurd h List.not_mem_nil, fun _ h => absurd h List.not_mem_nil⟩

theorem IsProper.push (h : l.IsProper) (hp : p.expr.IsProper) : (l.push p).IsProper :=
  ⟨List.forall_mem_cons.mpr ⟨hp, h.pieces⟩, h.branches⟩

theorem IsProper.branch (h : l.IsProper) :
    ∀ p ∈ joinPieces l.pieces :: l.branches, p.expr.IsProper :=
  List.forall_mem_cons.mpr ⟨isProper_joinPieces h.pieces, h.branches⟩

theorem IsProper.close (h : l.IsProper) : l.close.expr.IsProper :=
  isProper_joinBranches h.branch

end Level

structure Reading.IsProper (r : Reading) : Prop where
  level : r.level.IsProper
  outer : ∀ l ∈ r.outer, l.IsProper

namespace Reading

theorem IsProper.withLevel (h : r.IsProper) (hl : l.IsProper) : (r.withLevel l).IsProper :=
  ⟨hl, h.outer⟩

theorem IsProper.step (h : r.IsProper) (hread : r.step c s = .ok (r', rest)) : r'.IsProper := by
  cases makes_of_step hread with
  | chars | look => exact h.withLevel (h.level.push trivial)
  | branch => exact h.withLevel ⟨fun _ hp => absurd hp List.not_mem_nil, h.level.branch⟩
  | repeated hpieces hbounds =>
    have hall := h.level.pieces
    rw [hpieces, List.forall_mem_cons] at hall
    exact h.withLevel ⟨List.forall_mem_cons.mpr
      ⟨Expr.isProper_repeated hall.1 hbounds, hall.2⟩, h.level.branches⟩
  | directive =>
    exact h.withLevel ⟨List.forall_mem_cons.mpr ⟨trivial, h.level.pieces⟩, h.level.branches⟩
  | opened => exact ⟨Level.isProper_start _, List.forall_mem_cons.mpr ⟨h.level, h.outer⟩⟩
  | closed houter =>
    have hall := h.outer
    rw [houter, List.forall_mem_cons] at hall
    exact ⟨hall.1.push h.level.close, hall.2⟩

theorem Reaches.isProper (h : Reaches r s r' rest) (hr : r.IsProper) : r'.IsProper := by
  induction h with
  | refl => exact hr
  | step _ hstep _ _ ih => exact ih (hr.step hstep)

end Reading

theorem readPattern_ok {pattern : String} (h : readPattern pattern = .ok p) :
    ∃ r, Reading.start.readAll pattern.toList = .ok r ∧ r.outer = [] ∧ r.names.Nodup ∧
      p = r.level.close := by
  obtain ⟨r, hread, h⟩ := Except.bind_eq_ok.mp h
  obtain ⟨piece, hfinish, h⟩ := Except.bind_eq_ok.mp h
  unfold Reading.finish at hfinish
  split at hfinish
  · next houter =>
    cases hfinish
    dsimp only at h
    split at h
    · cases h
    · next hnames =>
      cases h
      exact ⟨r, hread, List.isEmpty_iff.mp houter, by simpa using hnames, rfl⟩
  · cases hfinish

theorem parse_ok {pattern : String} (h : parse pattern = .ok e) :
    ∃ r, Reading.start.readAll pattern.toList = .ok r ∧ r.outer = [] ∧ r.names.Nodup ∧
      e = r.level.close.expr := by
  unfold parse at h
  cases hpiece : readPattern pattern with
  | error fault =>
    rw [hpiece] at h
    cases h
  | ok piece =>
    obtain ⟨r, hr, houter, hnames, rfl⟩ := readPattern_ok hpiece
    simp only [hpiece, Except.mapError, bind, Except.bind] at h
    split at h
    · cases h
    · split at h
      · cases h
      · cases h
        exact ⟨r, hr, houter, hnames, rfl⟩

/-- Beyond the limits a text is a pattern still. -/
theorem parse_fault_iff {pattern : String} {fault : Fault} :
    parse pattern = .error (.fault fault) ↔ readPattern pattern = .error fault := by
  unfold parse
  cases readPattern pattern with
  | error fault' =>
    constructor
    · intro h
      cases h
      rfl
    · intro h
      cases h
      rfl
  | ok piece =>
    refine ⟨fun h => ?_, fun h => nomatch h⟩
    simp only [Except.mapError, bind, Except.bind] at h
    split at h
    · cases h
    · split at h <;> cases h

theorem isProper_of_parse {pattern : String} (h : parse pattern = .ok e) : e.IsProper := by
  obtain ⟨r, hread, -, -, rfl⟩ := parse_ok h
  have hstart : Reading.start.IsProper :=
    ⟨Level.isProper_start _, fun _ hl => absurd hl List.not_mem_nil⟩
  obtain ⟨rest, hreach, -⟩ := Reading.exists_reaches_of_readAll hread
  exact (hreach.isProper hstart).level.close

end Conformance.Regex
