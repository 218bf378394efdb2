import Conformance.Proofs.Template.Segment

/-!
# Boundaries between segments

No segment of a line ends in the middle of an escape: literal text is escaped as a whole, and a
placeholder ends in the parenthesis that closes its group. The expression of a line can therefore be
unescaped segment by segment.
-/
namespace Conformance

open Regex (Dangles escape unescape)

variable {mapping : Mapping} {source : String} {segment : Segment} {segments : List Segment}
  {token : Template.Token}

theorem Segment.not_dangles_expression
    (h : Pattern.segmentOf mapping source token = .ok segment) :
    ¬ Dangles segment.expression.toList := by
  rcases segmentOf_ok h with ⟨t, rfl, rfl⟩ | ⟨name, fragment, rfl, -, rfl⟩
  · rw [Segment.expression, String.toList_ofList]
    exact Regex.not_dangles_escapeList t
  · intro hdangles
    -- A backslash that ends the fragment escapes the parenthesis and does not dangle either.
    rw [toList_expression_placeholder, ← List.cons_append, ← List.cons_append,
      ← List.cons_append] at hdangles
    exact absurd (Regex.dangles_concat.mp hdangles).1 (by decide)

theorem IsCutInto.not_dangles (h : IsCutInto mapping source segments) :
    ∀ s ∈ segments, ¬ Dangles s.expression.toList := by
  intro s hs
  obtain ⟨token, hsegment⟩ := h.exists_token hs
  exact Segment.not_dangles_expression hsegment

theorem not_dangles_expressionOf (h : ∀ s ∈ segments, ¬ Dangles s.expression.toList) :
    ¬ Dangles (expressionOf segments) := by
  induction segments with
  | nil => exact Regex.not_dangles_nil
  | cons segment segments ih =>
    rw [List.forall_mem_cons] at h
    rw [expressionOf_cons, Regex.dangles_append h.1]
    exact ih h.2

namespace Pattern

/-- Unescaping gives back escaped text, one piece of it as well as two that stand side by side. No
escape reaches over the end of escaped text or over a boundary between the segments of a line. -/
theorem unescape_across_boundaries :
    (∀ s, unescape (escape s) = s) ∧
      (∀ s t, unescape (escape s ++ escape t) = s ++ t) ∧
      (∀ s, ¬ Dangles (escape s).toList) ∧
      ∀ {mapping line p}, compile mapping line = .ok p →
        ∀ before after, p.segments = before ++ after →
          ¬ Dangles (String.join (before.map Segment.expression)).toList ∧
            unescape p.expression =
              unescape (String.join (before.map Segment.expression)) ++
                unescape (String.join (after.map Segment.expression)) := by
  have hescaped : ∀ s, ¬ Dangles (escape s).toList := by
    intro s
    rw [Regex.toList_escape]
    exact Regex.not_dangles_escapeList s.toList
  refine ⟨Regex.unescape_escape, fun s t => ?_, hescaped, ?_⟩
  · rw [Regex.unescape_append (hescaped s), Regex.unescape_escape, Regex.unescape_escape]
  · intro mapping line p hcompile before after hsegments
    obtain ⟨hcut, hexpression⟩ := compile_ok hcompile
    have hbefore : ¬ Dangles (String.join (before.map Segment.expression)).toList := by
      rw [toList_join_expression]
      refine not_dangles_expressionOf fun s hs => hcut.not_dangles s ?_
      rw [hsegments]
      exact List.mem_append_left after hs
    refine ⟨hbefore, ?_⟩
    rw [hexpression, trimSpaces_expression hcut, hsegments, List.map_append, String.join_append,
      Regex.unescape_append hbefore]

/-- A backslash ends the text in front of the placeholder, the fragment, and the text in front of the
braces that are never closed. -/
theorem unescape_across_boundaries_backslash :
    ∃ p, compile (.ofList [("X", "a\\\\")]) "set \\\x7b\x7bX\x7d\x7d.\\\x7b\x7bY" = .ok p ∧
      p.segments = [.literal "set \\\\", .placeholder "X" "a\\\\", .literal "\\.\\\\",
        .literal "\\\x7b\\\x7bY"] ∧
      ¬ Dangles "set \\\\(?:a\\\\)\\.\\\\".toList ∧
      unescape p.expression = "set \\(?:a\\).\\" ++ "\x7b\x7bY" ∧
      unescape (escape ".\\" ++ escape "\x7b\x7bY") = ".\\" ++ "\x7b\x7bY" := by
  have hcompile : (compile (.ofList [("X", "a\\\\")])
      "set \\\x7b\x7bX\x7d\x7d.\\\x7b\x7bY").toOption.map Pattern.segments =
        some [.literal "set \\\\", .placeholder "X" "a\\\\", .literal "\\.\\\\",
          .literal "\\\x7b\\\x7bY"] := by
    decide +kernel
  obtain ⟨p, hp, hsegments⟩ := Except.exists_eq_ok hcompile
  obtain ⟨-, hconcat, -, hcut⟩ := unescape_across_boundaries
  obtain ⟨hdangles, hunescape⟩ := hcut hp [.literal "set \\\\", .placeholder "X" "a\\\\",
    .literal "\\.\\\\"] [.literal "\\\x7b\\\x7bY"] hsegments
  exact ⟨p, hp, hsegments, hdangles, hunescape, hconcat _ _⟩

end Pattern
end Conformance
