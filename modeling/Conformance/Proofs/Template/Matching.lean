import Conformance.Proofs.Template.Segment

/-!
# What the pattern of a line matches

The pattern of a line matches a text if the text can be cut into pieces, one for each segment of the
line: literal text matches itself, and the fragment of a placeholder matches what it matches as a
pattern of its own, at its place in the text.
-/
namespace Conformance

open Regex (Span SpanAll charPiece)

variable {mapping : Mapping} {line source : String} {p : Pattern} {segment : Segment}
  {segments : List Segment} {t : Template.Token} {text : Array Char} {i j k : Nat}

namespace Segment

def token : Segment → Template.Token
  | literal escaped => .literal (Regex.unescapeList escaped.toList)
  | placeholder name _ => .placeholder name.toList

/-- The segment stands for the piece of the text from `i` up to `j`. -/
def Fits (text : Array Char) : Segment → Nat → Nat → Prop
  | literal escaped, i, j =>
    i ≤ j ∧ j ≤ text.size ∧ text.extract i j = (Regex.unescape escaped).toList.toArray
  | placeholder _ fragment, i, j => ∃ e, Regex.parse fragment = .ok e ∧ Span text e i j

def FitAll (text : Array Char) : List Segment → Nat → Nat → Prop
  | [], i, j => i = j
  | s :: ss, i, k => ∃ j, s.Fits text i j ∧ FitAll text ss j k

/-- The fragment of a placeholder is a pattern of its own, without verbose notation. -/
def IsOrdinary : Segment → Prop
  | literal _ => True
  | placeholder _ fragment =>
    (∃ e, Regex.parse fragment = .ok e) ∧ ¬ Regex.SwitchesToVerbose fragment

theorem token_eq (h : Pattern.segmentOf mapping source t = .ok segment) :
    segment.token = t := by
  rcases segmentOf_ok h with ⟨t, rfl, rfl⟩ | ⟨name, fragment, rfl, -, rfl⟩
  · rw [Segment.token, String.toList_ofList, Regex.unescapeList_escapeList]
  · rw [Segment.token, String.toList_ofList]

theorem isWhole_of_isOrdinary (h : Pattern.segmentOf mapping source t = .ok segment)
    (hordinary : segment.IsOrdinary) : segment.IsWhole := by
  rcases segmentOf_ok h with ⟨t, rfl, rfl⟩ | ⟨name, fragment, rfl, -, rfl⟩
  · exact ⟨t, rfl⟩
  · obtain ⟨⟨e, he⟩, hverbose⟩ := hordinary
    obtain ⟨r, hread, houter, -, -⟩ := Regex.parse_ok he
    exact ⟨r, hread, houter, Regex.isSteady_of_not_switchesToVerbose hverbose⟩

theorem Fits.le_size (h : segment.Fits text i j) (hi : i ≤ text.size) : j ≤ text.size := by
  cases segment with
  | literal escaped => exact h.2.1
  | placeholder name fragment =>
    obtain ⟨e, -, hspan⟩ := h
    exact (hspan.forward hi).2

theorem spanAll_pieces (h : segment.IsOrdinary) (hi : i ≤ text.size) :
    SpanAll text (segment.pieces.map Regex.Piece.expr) i j ↔ segment.Fits text i j := by
  cases segment with
  | literal escaped =>
    rw [pieces, List.map_map, Fits, Regex.unescape, String.toList_ofList]
    exact Regex.spanAll_chars hi
  | placeholder name fragment =>
    obtain ⟨e, he⟩ := h.1
    obtain ⟨r, hread, -, -, rfl⟩ := Regex.parse_ok he
    rw [pieces, hread]
    constructor
    · rintro ⟨k, hspan, rfl⟩
      exact ⟨_, he, hspan⟩
    · rintro ⟨e, he', hspan⟩
      rw [he] at he'
      cases he'
      exact ⟨j, hspan, rfl⟩

theorem spanAll_flatMap_pieces (h : ∀ s ∈ segments, s.IsOrdinary) (hi : i ≤ text.size) :
    SpanAll text ((segments.flatMap pieces).map Regex.Piece.expr) i k ↔
      FitAll text segments i k := by
  induction segments generalizing i with
  | nil => rfl
  | cons segment segments ih =>
    rw [List.forall_mem_cons] at h
    rw [List.flatMap_cons, List.map_append, Regex.spanAll_append]
    constructor
    · rintro ⟨j, hfirst, hrest⟩
      have hfits := (spanAll_pieces h.1 hi).mp hfirst
      exact ⟨j, hfits, (ih h.2 (hfits.le_size hi)).mp hrest⟩
    · rintro ⟨j, hfits, hrest⟩
      exact ⟨j, (spanAll_pieces h.1 hi).mpr hfits, (ih h.2 (hfits.le_size hi)).mpr hrest⟩

theorem flatMap_pieces (h : segments.filterMap placeholderName? = []) :
    segments.flatMap pieces =
      ((segments.map Segment.token).flatMap Template.Token.literalText).map charPiece := by
  induction segments with
  | nil => rfl
  | cons segment segments ih =>
    cases segment with
    | literal escaped =>
      rw [List.flatMap_cons, List.map_cons, List.flatMap_cons, List.map_append, ih h]
      rfl
    | placeholder name fragment => cases h

theorem not_mem_map_token (h : segments.filterMap placeholderName? = []) (name : List Char) :
    Template.Token.placeholder name ∉ segments.map Segment.token := by
  intro hmem
  obtain ⟨segment, hsegment, htoken⟩ := List.mem_map.mp hmem
  cases segment with
  | literal escaped => cases htoken
  | placeholder name' fragment =>
    have hname : name' ∈ segments.filterMap placeholderName? :=
      List.mem_filterMap.mpr ⟨_, hsegment, rfl⟩
    rw [h] at hname
    cases hname

end Segment

theorem IsCutInto.map_token (h : IsCutInto mapping source segments) :
    segments.map Segment.token = Template.tokens source.toList := by
  unfold IsCutInto at h
  generalize Template.tokens source.toList = ts at h ⊢
  induction h with
  | nil => rfl
  | cons hfirst _ ih => rw [List.map_cons, ih, Segment.token_eq hfirst]

theorem IsCutInto.isWhole (h : IsCutInto mapping source segments)
    (hordinary : ∀ s ∈ segments, s.IsOrdinary) : ∀ s ∈ segments, s.IsWhole := by
  intro s hs
  obtain ⟨token, hsegment⟩ := h.exists_token hs
  exact Segment.isWhole_of_isOrdinary hsegment (hordinary s hs)

/-- The anchors hold the expression of a line to the whole of the text. -/
theorem span_lineExpr {ps : List Regex.Piece} : Span text (lineExpr ps) i j ↔
    i = 0 ∧ j = text.size ∧ SpanAll text (ps.map Regex.Piece.expr) 0 text.size := by
  rw [lineExpr, Regex.span_ofSeq]
  constructor
  · rintro ⟨a, hstart, b, hline, c, hend, rfl⟩
    cases hstart with
    | look hzero =>
      cases hend with
      | look hsize =>
        obtain rfl : i = 0 := beq_iff_eq.mp hzero
        obtain rfl : b = text.size := beq_iff_eq.mp hsize
        exact ⟨rfl, rfl, Regex.span_ofSeq.mp hline⟩
  · rintro ⟨rfl, rfl, hline⟩
    exact ⟨0, .look (beq_self_eq_true _), text.size, Regex.span_ofSeq.mpr hline, text.size,
      .look (beq_self_eq_true _), rfl⟩

namespace Pattern

theorem isMatch_iff_spanAll (hcompile : compile mapping line = .ok p)
    (hordinary : ∀ s ∈ p.segments, s.IsOrdinary) (s : String) : p.isMatch s = true ↔
      SpanAll s.toList.toArray ((p.segments.flatMap Segment.pieces).map Regex.Piece.expr) 0
        s.toList.length := by
  obtain ⟨hcut, hexpression⟩ := compile_ok hcompile
  have hadds := adds_expressionOf (hcut.isWhole hordinary)
  rw [← toList_join_expression, ← trimSpaces_expression hcut, ← hexpression] at hadds
  obtain ⟨r, hread, -, -, hexpr⟩ := exists_readAll_anchored hadds
  obtain ⟨r', hread', -, -, hregex⟩ := Regex.parse_ok p.parse_eq
  rw [hread] at hread'
  cases hread'
  have hproper := Regex.isProper_of_parse p.parse_eq
  rw [isMatch, Regex.Expr.isMatch_iff hproper, hregex, hexpr]
  simp only [span_lineExpr, List.size_toArray]
  constructor
  · rintro ⟨i, j, -, rfl, rfl, hspan⟩
    exact hspan
  · exact fun hspan => ⟨0, s.toList.length, Nat.zero_le _, rfl, rfl, hspan⟩

theorem isOrdinary_of_names_nil (h : p.names = []) : ∀ s ∈ p.segments, s.IsOrdinary := by
  intro s hs
  cases s with
  | literal escaped => trivial
  | placeholder name fragment =>
    have hname : name ∈ p.names := List.mem_filterMap.mpr ⟨_, hs, rfl⟩
    rw [h] at hname
    cases hname

theorem line_eq_of_names_nil (hcompile : compile mapping line = .ok p) (hnames : p.names = []) :
    (Text.trim line).toList = (p.segments.map Segment.token).flatMap Template.Token.literalText := by
  have hplain := Segment.not_mem_map_token hnames
  have htokens := (compile_ok hcompile).1.map_token
  rw [htokens] at hplain ⊢
  exact (Template.cuts_tokens _).line_eq hplain

/-- Without placeholders a pattern matches the text of its line and nothing else. -/
theorem isMatch_iff_eq_trim (hcompile : compile mapping line = .ok p) (hnames : p.names = [])
    (s : String) : p.isMatch s = true ↔ s = Text.trim line := by
  rw [isMatch_iff_spanAll hcompile (isOrdinary_of_names_nil hnames),
    Segment.flatMap_pieces hnames, ← line_eq_of_names_nil hcompile hnames, List.map_map]
  refine (Regex.spanAll_chars (Nat.zero_le _)).trans ?_
  have hall : s.toList.toArray.extract 0 s.toList.length = s.toList.toArray :=
    Array.extract_size
  rw [hall]
  constructor
  · rintro ⟨-, -, htext⟩
    exact String.toList_inj.mp (List.toArray_inj htext)
  · rintro rfl
    exact ⟨Nat.zero_le _, Nat.le_refl _, rfl⟩

/-- A text matches the pattern of a line if it falls into pieces, one for each segment. -/
theorem isMatch_iff_fitAll (hcompile : compile mapping line = .ok p)
    (hordinary : ∀ s ∈ p.segments, s.IsOrdinary) :
    (∀ s, p.isMatch s = true ↔
        Segment.FitAll s.toList.toArray p.segments 0 s.toList.length) ∧
      p.segments.map Segment.token = Template.tokens (Text.trim line).toList ∧
      (p.names = [] → ∀ s, p.isMatch s = true ↔ s = Text.trim line) ∧
      p.expression = String.join (p.segments.map Segment.expression) := by
  obtain ⟨hcut, hexpression⟩ := compile_ok hcompile
  refine ⟨fun s => ?_, hcut.map_token, isMatch_iff_eq_trim hcompile, ?_⟩
  · rw [isMatch_iff_spanAll hcompile hordinary,
      Segment.spanAll_flatMap_pieces hordinary (Nat.zero_le _)]
  · rw [hexpression, trimSpaces_expression hcut]

/-- A line with a fragment of two branches, and one that is literal text. -/
theorem isMatch_iff_fitAll_port :
    (∃ p, compile (.ofList [("PORT", "ge-0|et-0")]) " set \x7b\x7bPORT\x7d\x7d.1" = .ok p ∧
      p.segments = [.literal "set ", .placeholder "PORT" "ge-0|et-0", .literal "\\.1"] ∧
      ∀ s, p.isMatch s = true ↔
        Segment.FitAll s.toList.toArray p.segments 0 s.toList.length) ∧
    ∃ p, compile .empty " set a.b " = .ok p ∧ p.names = [] ∧
      ∀ s, p.isMatch s = true ↔ s = "set a.b" := by
  constructor
  · have hcompile : (compile (.ofList [("PORT", "ge-0|et-0")])
        " set \x7b\x7bPORT\x7d\x7d.1").toOption.map Pattern.segments =
          some [.literal "set ", .placeholder "PORT" "ge-0|et-0", .literal "\\.1"] := by
      decide +kernel
    obtain ⟨p, hp, hsegments⟩ := Except.exists_eq_ok hcompile
    have hfragment : ∃ e, Regex.parse "ge-0|et-0" = .ok e :=
      ⟨.alt (.literal "ge-0".toList) (.literal "et-0".toList), by decide +kernel⟩
    have hverbose : ¬ Regex.SwitchesToVerbose "ge-0|et-0" :=
      Regex.not_switchesToVerbose_of_notMem (by decide)
    refine ⟨p, hp, hsegments, (isMatch_iff_fitAll hp ?_).1⟩
    rw [hsegments]
    simp only [List.forall_mem_cons]
    exact ⟨trivial, ⟨hfragment, hverbose⟩, trivial, fun _ h => absurd h List.not_mem_nil⟩
  · have hcompile : (compile .empty " set a.b ").toOption.map Pattern.segments =
        some [.literal "set a\\.b"] := by
      decide +kernel
    obtain ⟨p, hp, hsegments⟩ := Except.exists_eq_ok hcompile
    have hnames : p.names = [] := by rw [names, hsegments]; rfl
    have hordinary : ∀ s ∈ p.segments, s.IsOrdinary := by
      rw [hsegments]
      exact List.forall_mem_cons.mpr ⟨trivial, fun _ h => absurd h List.not_mem_nil⟩
    have hline : Text.trim " set a.b " = "set a.b" := by decide +kernel
    refine ⟨p, hp, hnames, ?_⟩
    have hmatch := (isMatch_iff_fitAll hp hordinary).2.2.1 hnames
    rwa [hline] at hmatch

end Pattern
end Conformance
