import Conformance.Proofs.Regex.Assembly
import Conformance.Proofs.Template.Token
import Conformance.Proofs.Text.Blank
import Conformance.Template.Pattern

/-!
# The segments of a line

The segments follow the tokens of the line. Their expressions, joined, neither begin nor end with a
blank, so that nothing is trimmed off. Read as a pattern, each segment adds its pieces to those of
the line, and the expression of the line stands between its two anchors.
-/
namespace Conformance

open Regex (Adds IsWhole SpanAll charPiece groupPiece escapeList)

variable {mapping : Mapping} {line source : String} {p : Pattern} {segment : Segment}
  {segments : List Segment} {token : Template.Token} {ts : List Template.Token} {c : Char}

/-! ## Segments and tokens -/

theorem segmentOf_ok (h : Pattern.segmentOf mapping source token = .ok segment) :
    (∃ t, token = .literal t ∧ segment = .literal (String.ofList (escapeList t))) ∨
      ∃ name fragment, token = .placeholder name ∧
        mapping.get? (String.ofList name) = some fragment ∧
        segment = .placeholder (String.ofList name) fragment := by
  cases token with
  | literal t =>
    cases h
    exact .inl ⟨t, rfl, rfl⟩
  | placeholder name =>
    dsimp only [Pattern.segmentOf] at h
    split at h
    · next fragment hget =>
      cases h
      exact .inr ⟨name, fragment, rfl, hget, rfl⟩
    · cases h

/-- The segments of a line, one for each token. -/
def IsCutInto (mapping : Mapping) (source : String) (segments : List Segment) : Prop :=
  List.Forall₂ (fun token segment => Pattern.segmentOf mapping source token = .ok segment)
    (Template.tokens source.toList) segments

theorem IsCutInto.exists_token (h : IsCutInto mapping source segments) (hs : segment ∈ segments) :
    ∃ token, Pattern.segmentOf mapping source token = .ok segment := by
  unfold IsCutInto at h
  generalize Template.tokens source.toList = ts at h
  induction h with
  | nil => exact absurd hs List.not_mem_nil
  | cons hfirst _ ih =>
    rcases List.mem_cons.mp hs with rfl | hs
    · exact ⟨_, hfirst⟩
    · exact ih hs

theorem ofSegments_ok (h : Pattern.ofSegments source segments = .ok p) : p.source = source ∧
    p.segments = segments ∧
    p.expression = Text.trimSpaces (String.join (segments.map Segment.expression)) := by
  unfold Pattern.ofSegments at h
  dsimp only at h
  split at h
  · cases h
    exact ⟨rfl, rfl, rfl⟩
  · cases h

theorem compile_ok (h : Pattern.compile mapping line = .ok p) :
    IsCutInto mapping (Text.trim line) p.segments ∧
      p.expression = Text.trimSpaces (String.join (p.segments.map Segment.expression)) := by
  obtain ⟨segments, hsegments, h⟩ := Except.bind_eq_ok.mp h
  obtain ⟨-, rfl, hexpression⟩ := ofSegments_ok h
  exact ⟨Except.mapM_eq_ok.mp hsegments, hexpression⟩

/-! ## Trimming -/

theorem getLast?_escapeList (t : List Char) : (escapeList t).getLast? = t.getLast? := by
  induction t with
  | nil => rfl
  | cons d t ih =>
    rw [escapeList]
    split
    · rw [List.getLast?_cons, List.getLast?_cons, List.getLast?_cons, ih]
      rfl
    · rw [List.getLast?_cons, List.getLast?_cons, ih]

def expressionOf (segments : List Segment) : List Char :=
  segments.flatMap fun s => s.expression.toList

theorem expressionOf_cons (segment : Segment) (segments : List Segment) :
    expressionOf (segment :: segments) = segment.expression.toList ++ expressionOf segments :=
  rfl

theorem toList_expression_placeholder (name fragment : String) :
    (Segment.placeholder name fragment).expression.toList =
      '(' :: '?' :: ':' :: (fragment.toList ++ [')']) := by
  rw [Segment.expression, String.toList_append, String.toList_append]
  rfl

theorem isSpaceOrTab_of_head (hcut : IsCutInto mapping source segments)
    (hsource : ∀ c, source.toList.head? = some c → Text.isBlank c = false)
    (h : (expressionOf segments).head? = some c) : Text.isSpaceOrTab c = false := by
  have hcuts := Template.cuts_tokens source.toList
  unfold IsCutInto at hcut
  generalize Template.tokens source.toList = ts at hcut hcuts
  cases hcut with
  | nil => cases h
  | @cons token segment ts segments hfirst hrest =>
    rw [expressionOf_cons] at h
    rcases segmentOf_ok hfirst with ⟨t, rfl, rfl⟩ | ⟨name, fragment, rfl, -, rfl⟩
    · obtain ⟨ht, rest, hline⟩ := hcuts.prefix
      obtain ⟨d, t, rfl⟩ := List.exists_cons_of_ne_nil ht
      rw [Segment.expression, String.toList_ofList, escapeList] at h
      split at h
      · cases h
        decide
      · cases h
        refine Text.isSpaceOrTab_of_isBlank (hsource c ?_)
        rw [← hline]
        rfl
    · rw [toList_expression_placeholder] at h
      cases h
      decide

theorem isSpaceOrTab_of_last (hcut : IsCutInto mapping source segments)
    (hsource : ∀ c, source.toList.getLast? = some c → Text.isBlank c = false)
    (h : (expressionOf segments).getLast? = some c) : Text.isSpaceOrTab c = false := by
  have hcuts := Template.cuts_tokens source.toList
  unfold IsCutInto at hcut
  generalize Template.tokens source.toList = ts at hcut hcuts
  rcases List.eq_nil_or_concat segments with rfl | ⟨front, last, rfl⟩
  · cases h
  · rw [List.concat_eq_append] at hcut h
    have hlast := List.forall₂_drop_append _ _ _ hcut
    have hts := List.take_append_drop front.length ts
    generalize List.drop front.length ts = after at hlast hts
    obtain ⟨token, rest, hsegment, hrest, rfl⟩ := List.forall₂_cons_right_iff.mp hlast
    obtain rfl := List.forall₂_nil_right_iff.mp hrest
    rw [expressionOf, List.flatMap_append, List.flatMap_singleton, List.getLast?_append] at h
    rcases segmentOf_ok hsegment with ⟨t, rfl, rfl⟩ | ⟨name, fragment, rfl, -, rfl⟩
    · obtain ⟨ht, before, hline⟩ := (hts ▸ hcuts).suffix
      rw [Segment.expression, String.toList_ofList, getLast?_escapeList] at h
      rw [List.getLast?_eq_getLast_of_ne_nil ht, Option.some_or] at h
      refine Text.isSpaceOrTab_of_isBlank (hsource c ?_)
      rw [← hline, List.getLast?_append, List.getLast?_eq_getLast_of_ne_nil ht, h]
      rfl
    · have hparen : ('(' :: '?' :: ':' :: fragment.toList ++ [')']).getLast? = some ')' :=
        List.getLast?_concat
      rw [toList_expression_placeholder, ← List.cons_append, ← List.cons_append,
        ← List.cons_append, hparen] at h
      cases h
      decide

theorem toList_join_expression (segments : List Segment) :
    (String.join (segments.map Segment.expression)).toList = expressionOf segments := by
  rw [String.toList_join, List.flatMap_map]
  rfl

theorem trimSpaces_expression (hcut : IsCutInto mapping (Text.trim line) segments) :
    Text.trimSpaces (String.join (segments.map Segment.expression)) =
      String.join (segments.map Segment.expression) := by
  have hstrip : Text.stripList Text.isSpaceOrTab (expressionOf segments) =
      expressionOf segments := by
    refine Text.stripList_eq_self (fun c => isSpaceOrTab_of_head hcut fun c hc => ?_)
      (fun c => isSpaceOrTab_of_last hcut fun c hc => ?_)
    · rw [Text.trim, String.toList_ofList] at hc
      exact Text.not_head?_stripList hc
    · rw [Text.trim, String.toList_ofList] at hc
      exact Text.not_getLast?_stripList hc
  rw [Text.trimSpaces, toList_join_expression, hstrip, ← toList_join_expression,
    String.ofList_toList]

/-! ## Reading a line -/

namespace Segment

def pieces : Segment → List Regex.Piece
  | literal escaped => (Regex.unescapeList escaped.toList).map charPiece
  | placeholder _ fragment =>
    match Regex.Reading.start.readAll fragment.toList with
    | .ok r => [groupPiece r]
    | .error _ => []

def captureNames : Segment → List String
  | literal _ => []
  | placeholder _ fragment => Regex.captureNames fragment

def IsWhole : Segment → Prop
  | literal escaped => ∃ t, escaped = String.ofList (escapeList t)
  | placeholder _ fragment => ∃ r, Regex.IsWhole fragment r

theorem IsWhole.adds (h : segment.IsWhole) :
    Adds segment.expression.toList segment.pieces segment.captureNames := by
  cases segment with
  | literal escaped =>
    obtain ⟨t, rfl⟩ := h
    rw [expression, pieces, String.toList_ofList, Regex.unescapeList_escapeList]
    exact Regex.adds_escapeList t
  | placeholder name fragment =>
    obtain ⟨r, hr⟩ := h
    rw [toList_expression_placeholder, pieces, captureNames, Regex.captureNames, hr.reads]
    exact hr.adds

end Segment

theorem adds_expressionOf (h : ∀ s ∈ segments, s.IsWhole) :
    Adds (expressionOf segments) (segments.flatMap Segment.pieces)
      (segments.reverse.flatMap Segment.captureNames) := by
  induction segments with
  | nil => exact .nil
  | cons segment segments ih =>
    rw [List.forall_mem_cons] at h
    rw [List.reverse_cons, List.flatMap_append, List.flatMap_singleton]
    exact h.1.adds.append (ih h.2)

theorem toList_anchored (expression : String) : (anchored expression).toList =
    '^' :: '(' :: '?' :: ':' :: (expression.toList ++ [')', '$']) := by
  rw [anchored, String.toList_append, String.toList_append, List.append_assoc]
  rfl

def lineExpr (ps : List Regex.Piece) : Regex.Expr :=
  .ofSeq [.look .textStart, .ofSeq (ps.map Regex.Piece.expr), .look .textEnd]

/-- The level around the group that holds a line. -/
def anchorLevel : Regex.Level :=
  (Regex.Level.start {}).pushAll [⟨.look .textStart, 0, false⟩]

theorem readAll_anchored (expression : String) :
    Regex.Reading.start.readAll (anchored expression).toList =
      (⟨.start {}, [anchorLevel], []⟩ : Regex.Reading).readAll
        (expression.toList ++ [')', '$']) := by
  have hstart : Regex.Reading.start.readAll (anchored expression).toList =
      (⟨anchorLevel, [], []⟩ : Regex.Reading).readAll
        ('(' :: '?' :: ':' :: (expression.toList ++ [')', '$'])) := by
    rw [toList_anchored]
    exact Regex.readAll_step rfl rfl (Nat.le_refl _)
  exact hstart.trans (Regex.readAll_openGroup _ _)

theorem exists_readAll_anchored {expression : String} {ps : List Regex.Piece}
    {names : List String} (h : Adds expression.toList ps names) :
    ∃ r, Regex.Reading.start.readAll (anchored expression).toList = .ok r ∧ r.outer = [] ∧
      r.names = names ∧ r.level.close.expr = lineExpr ps := by
  let inner : Regex.Level := (Regex.Level.start {}).pushAll ps
  let group : Regex.Piece := ⟨inner.close.expr, inner.close.depth + 1, false⟩
  let last : Regex.Level := anchorLevel.pushAll [group, ⟨.look .textEnd, 0, false⟩]
  have hline := h (.start {}) [anchorLevel] [] [')', '$'] rfl
  rw [List.append_nil] at hline
  have hend : (⟨anchorLevel.push group, [], names⟩ : Regex.Reading).readAll ['$'] =
      .ok ⟨last, [], names⟩ :=
    (Regex.readAll_step rfl rfl (Nat.le_refl _)).trans (Regex.Reading.readAll_eq _ _)
  refine ⟨⟨last, [], names⟩, ?_, rfl, rfl, ?_⟩
  · rw [readAll_anchored, hline, Regex.readAll_closeGroup]
    exact hend
  · have hgroup : group.expr = .ofSeq (ps.map Regex.Piece.expr) := Regex.expr_close_pushAll ps
    rw [lineExpr, ← hgroup]
    exact Regex.expr_close_pushAll
      [⟨.look .textStart, 0, false⟩, group, ⟨.look .textEnd, 0, false⟩]

end Conformance
