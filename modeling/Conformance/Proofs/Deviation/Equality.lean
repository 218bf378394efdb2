import Conformance.Deviation.Matching
import Conformance.Proofs.Template.Rendering

/-!
# Equal patterns

Patterns are equal if they come from the same line and have the same expression, whatever mappings
they were compiled under and however these cut the expression into fragments. The line tells how a
pattern is rendered, and the expression tells what it matches. An audit asks for nothing else, so it
does not tell equal sets of patterns apart.
-/
namespace Conformance

variable {mapping : Mapping} {line : String} {p q : Pattern} {A B X Y : PatternSet}

namespace Pattern

def IsCompiled (p : Pattern) : Prop :=
  ∃ mapping line, compile mapping line = .ok p

/-- Patterns that match the same lines and are rendered alike. -/
structure Agrees (p q : Pattern) : Prop where
  isMatch_eq : ∀ line, p.isMatch line = q.isMatch line
  render_eq : p.render = q.render

theorem agrees_refl (p : Pattern) : p.Agrees p :=
  ⟨fun _ => rfl, rfl⟩

theorem isMatch_eq_of_expression (h : p.expression = q.expression) (line : String) :
    p.isMatch line = q.isMatch line := by
  have hparse := p.parse_eq
  rw [h, q.parse_eq] at hparse
  rw [isMatch, isMatch, Except.ok.inj hparse]

theorem source_eq (h : compile mapping line = .ok p) : p.source = Text.trim line := by
  obtain ⟨segments, -, h⟩ := Except.bind_eq_ok.mp h
  exact (ofSegments_ok h).1

/-- The fragments of a pattern leave no trace in what it is rendered as. -/
theorem IsCompiled.toList_render (h : p.IsCompiled) :
    p.render.toList = Template.shownAll (Template.tokens p.source.toList) := by
  obtain ⟨mapping, line, hcompile⟩ := h
  rw [source_eq hcompile]
  exact (Pattern.toList_render hcompile).2

theorem agrees_of_beq (hp : p.IsCompiled) (hq : q.IsCompiled) (h : (p == q) = true) :
    p.Agrees q := by
  obtain ⟨hsource, hexpression⟩ : p.source = q.source ∧ p.expression = q.expression := by
    simpa [BEq.beq] using h
  refine ⟨isMatch_eq_of_expression hexpression, String.toList_injective ?_⟩
  rw [hp.toList_render, hq.toList_render, hsource]

end Pattern

namespace PatternSet

theorem agrees_of_beq (hA : ∀ p ∈ A, p.IsCompiled) (hB : ∀ p ∈ B, p.IsCompiled)
    (h : (A == B) = true) : List.Forall₂ Pattern.Agrees A B := by
  induction A generalizing B with
  | nil =>
    cases B with
    | nil => exact .nil
    | cons q B => cases h
  | cons p A ih =>
    cases B with
    | nil => cases h
    | cons q B =>
      rw [List.forall_mem_cons] at hA hB
      rw [List.cons_beq_cons, Bool.and_eq_true] at h
      exact .cons (Pattern.agrees_of_beq hA.1 hB.1 h.1) (ih hA.2 hB.2 h.2)

theorem agrees_refl (A : PatternSet) : List.Forall₂ Pattern.Agrees A A :=
  List.forall₂_same.mpr fun p _ => p.agrees_refl

theorem anyMatch_congr (h : List.Forall₂ Pattern.Agrees A B) (line : String) :
    A.anyMatch line = B.anyMatch line := by
  induction h with
  | nil => rfl
  | cons hpq _ ih =>
    simp only [anyMatch, List.any_cons] at ih ⊢
    rw [hpq.isMatch_eq, ih]

end PatternSet

/-! ## Audits with patterns that agree -/

namespace Audit

theorem removeFirst?_rel {α : Type} {R : α → α → Prop} {f g : α → Bool} {as bs : List α}
    (hR : ∀ a b, R a b → f a = g b) (h : List.Forall₂ R as bs) :
    Option.Rel (List.Forall₂ R) (removeFirst? f as) (removeFirst? g bs) := by
  induction h with
  | nil => exact .none
  | @cons a b as bs hab has ih =>
    rw [removeFirst?, removeFirst?, hR a b hab]
    cases g b with
    | true => exact .some has
    | false =>
      simp only [Bool.false_eq_true, if_false]
      generalize removeFirst? f as = fewer at ih ⊢
      generalize removeFirst? g bs = fewer' at ih ⊢
      cases ih with
      | none => exact .none
      | some hrest => exact .some (.cons hab hrest)

structure Agrees (a b : Audit) : Prop where
  free : List.Forall₂ Pattern.Agrees a.free b.free
  extra_eq : a.extra = b.extra

theorem Agrees.step {a b : Audit} (h : a.Agrees b) (hoptional : List.Forall₂ Pattern.Agrees X Y)
    (line : String) : (step X a line).Agrees (step Y b line) := by
  have hremoved := removeFirst?_rel (f := (·.isMatch line)) (g := (·.isMatch line))
    (fun p q hpq => hpq.isMatch_eq line) h.free
  rw [Audit.step, Audit.step, PatternSet.anyMatch_congr hoptional, h.extra_eq]
  generalize removeFirst? (·.isMatch line) a.free = fewer at hremoved ⊢
  generalize removeFirst? (·.isMatch line) b.free = fewer' at hremoved ⊢
  cases hremoved with
  | some hfree => exact ⟨hfree, rfl⟩
  | none =>
    cases Y.anyMatch line with
    | true => exact h
    | false => exact ⟨h.free, rfl⟩

theorem Agrees.foldl {a b : Audit} (h : a.Agrees b) (hoptional : List.Forall₂ Pattern.Agrees X Y)
    (commands : List String) :
    (commands.foldl (Audit.step X) a).Agrees (commands.foldl (Audit.step Y) b) := by
  induction commands generalizing a b with
  | nil => exact h
  | cons line commands ih => exact ih (h.step hoptional line)

theorem agrees_run (hmandatory : List.Forall₂ Pattern.Agrees A B)
    (hoptional : List.Forall₂ Pattern.Agrees X Y) (commands : List String) :
    (run A X commands).Agrees (run B Y commands) := by
  have hstart : Agrees ⟨A, []⟩ ⟨B, []⟩ := ⟨hmandatory, rfl⟩
  exact hstart.foldl hoptional commands

end Audit

theorem findDeviations_congr (hmandatory : List.Forall₂ Pattern.Agrees A B)
    (hoptional : List.Forall₂ Pattern.Agrees X Y) (lines : List String) :
    findDeviations A X lines = findDeviations B Y lines := by
  have hrun := Audit.agrees_run hmandatory hoptional (commandLines lines)
  have hmissing : (Audit.run A X (commandLines lines)).free.map Pattern.render =
      (Audit.run B Y (commandLines lines)).free.map Pattern.render := by
    rw [← List.forall₂_eq_eq_eq, List.forall₂_map_left_iff, List.forall₂_map_right_iff]
    exact hrun.free.imp fun p q hpq => hpq.render_eq
  rw [findDeviations, findDeviations, hmissing, hrun.extra_eq]

/-- Equal sets of patterns of template lines can stand for each other in every audit, as mandatory
patterns and as optional ones, and they match the same lines. -/
theorem PatternSet.interchangeable_of_beq (hA : ∀ p ∈ A, p.IsCompiled)
    (hB : ∀ p ∈ B, p.IsCompiled) (h : (A == B) = true) :
    (∀ (X : PatternSet) (lines : List String),
      findDeviations A X lines = findDeviations B X lines ∧
        findDeviations X A lines = findDeviations X B lines) ∧
      ∀ line, A.anyMatch line = B.anyMatch line := by
  have hagrees := agrees_of_beq hA hB h
  refine ⟨fun X lines => ⟨?_, ?_⟩, anyMatch_congr hagrees⟩
  · exact findDeviations_congr hagrees X.agrees_refl lines
  · exact findDeviations_congr X.agrees_refl hagrees lines

/-- Two mappings that cut one expression into different fragments. -/
theorem PatternSet.interchangeable_of_beq_regrouped :
    ∃ p q, Pattern.compile (.ofList [("A", "x"), ("B", "y) (?:z")])
        "set \x7b\x7bA\x7d\x7d \x7b\x7bB\x7d\x7d" = .ok p ∧
      Pattern.compile (.ofList [("A", "x) (?:y"), ("B", "z")])
        "set \x7b\x7bA\x7d\x7d \x7b\x7bB\x7d\x7d" = .ok q ∧
      p.segments ≠ q.segments ∧ ([p] == [q]) = true ∧
      findDeviations [p] [] ["set x y z", "set x y"] =
        findDeviations [q] [] ["set x y z", "set x y"] ∧
      findDeviations [q] [p] ["set x y z", "set x y z"] =
        findDeviations [q] [q] ["set x y z", "set x y z"] ∧
      PatternSet.anyMatch [p] "set x y z" = PatternSet.anyMatch [q] "set x y z" := by
  have hp : (Pattern.compile (.ofList [("A", "x"), ("B", "y) (?:z")])
      "set \x7b\x7bA\x7d\x7d \x7b\x7bB\x7d\x7d").toOption.map
        (fun p => (p.source, p.expression, p.segments)) =
      some ("set \x7b\x7bA\x7d\x7d \x7b\x7bB\x7d\x7d", "set (?:x) (?:y) (?:z)",
        [.literal "set ", .placeholder "A" "x", .literal " ", .placeholder "B" "y) (?:z"]) := by
    decide +kernel
  have hq : (Pattern.compile (.ofList [("A", "x) (?:y"), ("B", "z")])
      "set \x7b\x7bA\x7d\x7d \x7b\x7bB\x7d\x7d").toOption.map
        (fun p => (p.source, p.expression, p.segments)) =
      some ("set \x7b\x7bA\x7d\x7d \x7b\x7bB\x7d\x7d", "set (?:x) (?:y) (?:z)",
        [.literal "set ", .placeholder "A" "x) (?:y", .literal " ", .placeholder "B" "z"]) := by
    decide +kernel
  obtain ⟨p, hcompile, hp⟩ := Except.exists_eq_ok hp
  obtain ⟨q, hcompile', hq⟩ := Except.exists_eq_ok hq
  simp only [Prod.mk.injEq] at hp hq
  have hequal : ([p] == [q]) = true := by
    simp [BEq.beq, List.beq, hp.1, hp.2.1, hq.1, hq.2.1]
  obtain ⟨haudits, hmatch⟩ := interchangeable_of_beq
    (List.forall_mem_singleton.mpr ⟨_, _, hcompile⟩)
    (List.forall_mem_singleton.mpr ⟨_, _, hcompile'⟩) hequal
  refine ⟨p, q, hcompile, hcompile', ?_, hequal, (haudits [] _).1, (haudits [q] _).2, hmatch _⟩
  rw [hp.2.2, hq.2.2]
  decide

end Conformance
