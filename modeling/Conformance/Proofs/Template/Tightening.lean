import Conformance.Proofs.Template.Splitting

/-!
# Lines without blanks inside their braces

A pattern is rendered as the line it was compiled from, trimmed, without the blanks just inside each
pair of double braces. All other characters stand where they stood, whatever the names stand for.
-/
namespace Conformance

namespace Text

variable {p : Char → Bool}

theorem filter_dropWhile (p : Char → Bool) (s : List Char) :
    (s.dropWhile p).filter (!p ·) = s.filter (!p ·) := by
  induction s with
  | nil => rfl
  | cons c s ih =>
    cases hc : p c
    · simp [hc]
    · simp [hc, ih]

theorem filter_stripList (p : Char → Bool) (s : List Char) :
    (stripList p s).filter (!p ·) = s.filter (!p ·) := by
  rw [stripList, List.filter_reverse, filter_dropWhile, List.filter_reverse, List.reverse_reverse,
    filter_dropWhile]

end Text

namespace Template

variable {line : List Char}

/-- The line without the blanks just inside its double braces: behind the first two opening braces,
in front of the first two closing ones after them, and so on with what is left. Where no closing
braces follow, the line stays as it is. -/
def tighten (line : List Char) : List Char :=
  match _ : line.dropInfix? ['\x7b', '\x7b'] with
  | none => line
  | some (text, behind) =>
    match _ : behind.dropInfix? ['\x7d', '\x7d'] with
    | none => line
    | some (name, after) =>
      text ++ '\x7b' :: '\x7b' :: (Text.trimList name ++ '\x7d' :: '\x7d' :: tighten after)
termination_by line.length
decreasing_by
  have hopen : line.dropInfix? ['\x7b', '\x7b'] = some (text, behind) := by assumption
  have hclose : behind.dropInfix? ['\x7d', '\x7d'] = some (name, after) := by assumption
  exact (length_lt_of_dropInfix? hclose).trans (length_lt_of_dropInfix? hopen)

theorem shownAll_textToken (t : List Char) : shownAll (textToken t) = t := by
  rw [← literalToken_reverse, shownAll_literalToken]

/-- The pieces of a line, written one after the other again, make the line without those blanks. -/
theorem shownAll_pieces (line : List Char) : shownAll (pieces line) = tighten line := by
  fun_induction tighten line with
  | case1 line hopen =>
    rw [pieces]
    split
    · exact shownAll_textToken line
    · next hsome => simp [hopen] at hsome
  | case2 line text behind hopen hclose =>
    rw [pieces]
    split
    · next hnone => simp [hopen] at hnone
    · next hsome =>
      rw [hopen] at hsome
      cases hsome
      split
      · simp [shownAll_textToken, Token.shown, dropInfix?_eq_append hopen]
      · next hsome => simp [hclose] at hsome
  | case3 line text behind hopen name after hclose ih =>
    rw [pieces]
    split
    · next hnone => simp [hopen] at hnone
    · next hsome =>
      rw [hopen] at hsome
      cases hsome
      split
      · next hnone => simp [hclose] at hnone
      · next hsome =>
        rw [hclose] at hsome
        cases hsome
        simp [shownAll_textToken, Token.shown, ih]

theorem filter_tighten (line : List Char) :
    (tighten line).filter (!Text.isBlank ·) = line.filter (!Text.isBlank ·) := by
  fun_induction tighten line with
  | case1 => rfl
  | case2 => rfl
  | case3 line text behind hopen name after hclose ih =>
    have hname := Text.filter_stripList Text.isBlank name
    rw [dropInfix?_eq_append hopen, dropInfix?_eq_append hclose]
    simp only [List.filter_append, List.filter_cons, Text.trimList, hname, ih]

end Template

namespace Pattern

variable {mapping : Mapping} {line : String} {p : Pattern}

theorem toList_render_eq_shownAll (hcompile : compile mapping line = .ok p) :
    p.render.toList = Template.shownAll (piecesOf line) := by
  rw [piecesOf, Template.pieces_eq_tokens]
  exact (toList_render hcompile).2

theorem filter_trim (line : String) : (Text.trim line).toList.filter (!Text.isBlank ·) =
    line.toList.filter (!Text.isBlank ·) := by
  rw [Text.trim, String.toList_ofList]
  exact Text.filter_stripList Text.isBlank line.toList

/-- A pattern is rendered as its line, trimmed, without the blanks just inside double braces. Literal
text stands there as it stands in the line, every character that is no blank is still there, and what
the names stand for makes no difference. -/
theorem render_lossless (hcompile : compile mapping line = .ok p) :
    p.render.toList = Template.tighten (Text.trim line).toList ∧
    p.render.toList = (piecesOf line).flatMap Template.Token.shown ∧
    p.render.toList.filter (!Text.isBlank ·) = line.toList.filter (!Text.isBlank ·) ∧
    ∀ mapping' p', compile mapping' line = .ok p' → p'.render = p.render := by
  have hpieces := toList_render_eq_shownAll hcompile
  have htight : p.render.toList = Template.tighten (Text.trim line).toList := by
    rw [hpieces]
    exact Template.shownAll_pieces _
  refine ⟨htight, hpieces, ?_, ?_⟩
  · rw [htight, Template.filter_tighten]
    exact filter_trim line
  · intro mapping' p' hcompile'
    apply String.toList_inj.mp
    rw [hpieces]
    exact toList_render_eq_shownAll hcompile'

/-- A line with single braces, backslashes, signs with a meaning, a name between blanks that are no
spaces, and an opening that is not closed. -/
def untidyLine : String :=
  " set \\. \x7b\x7d\x7b\x7b A\t\x7d\x7d|\\\x7b\x7b\u00a0B\x7d\x7d\x7d \x7b\x7b C "

/-- Whatever the two names stand for, the line is rendered without the blanks around them. -/
theorem render_lossless_untidy :
    ∃ p p', compile (.ofList [("A", "a|b"), ("B", "(?i)c")]) untidyLine = .ok p ∧
      compile (.ofList [("A", ""), ("B", "[\x7b ]")]) untidyLine = .ok p' ∧
      p.render = "set \\. \x7b\x7d\x7b\x7bA\x7d\x7d|\\\x7b\x7bB\x7d\x7d\x7d \x7b\x7b C" ∧
      p.render.toList = Template.tighten (Text.trim untidyLine).toList ∧
      p.render.toList = (piecesOf untidyLine).flatMap Template.Token.shown ∧
      p.render.toList.filter (!Text.isBlank ·) = untidyLine.toList.filter (!Text.isBlank ·) ∧
      p'.render = p.render := by
  have hcompile : (compile (.ofList [("A", "a|b"), ("B", "(?i)c")])
      untidyLine).toOption.map Pattern.segments =
        some [.literal "set \\\\\\. \\\x7b\\\x7d", .placeholder "A" "a|b", .literal "\\|\\\\",
          .placeholder "B" "(?i)c", .literal "\\\x7d ", .literal "\\\x7b\\\x7b C"] := by
    decide +kernel
  have hcompile' : (compile (.ofList [("A", ""), ("B", "[\x7b ]")])
      untidyLine).toOption.isSome = true := by
    decide +kernel
  obtain ⟨p, hp, hsegments⟩ := Except.exists_eq_ok hcompile
  obtain ⟨p', hp'⟩ := Except.exists_ok_of_isSome hcompile'
  have hrender : p.render =
      "set \\. \x7b\x7d\x7b\x7bA\x7d\x7d|\\\x7b\x7bB\x7d\x7d\x7d \x7b\x7b C" := by
    rw [render, hsegments]
    decide +kernel
  obtain ⟨htight, hpieces, hfilter, hsame⟩ := render_lossless hp
  exact ⟨p, p', hp, hp', hrender, htight, hpieces, hfilter, hsame _ _ hp'⟩

end Pattern
end Conformance
