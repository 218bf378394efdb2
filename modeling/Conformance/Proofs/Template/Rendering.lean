import Conformance.Proofs.Template.Matching

/-!
# Rendered lines

A rendered pattern is the line it came from, without the blanks around its names. Compiled again it
gives the same pattern, unless a name ends in a closing brace: such a name can only be written with
a blank behind it, and rendering leaves the blank out.
-/
namespace Conformance

namespace Template

variable {ts : List Token} {t line : List Char}

def Token.shown : Token → List Char
  | .literal text => text
  | .placeholder name => '\x7b' :: '\x7b' :: (name ++ ['\x7d', '\x7d'])

def Token.name? : Token → Option String
  | .literal _ => none
  | .placeholder name => some (String.ofList name)

def shownAll (ts : List Token) : List Char :=
  ts.flatMap Token.shown

@[simp] theorem shownAll_nil : shownAll [] = [] := rfl

@[simp] theorem shownAll_cons (token : Token) (ts : List Token) :
    shownAll (token :: ts) = token.shown ++ shownAll ts := rfl

@[simp] theorem shownAll_append (ts us : List Token) :
    shownAll (ts ++ us) = shownAll ts ++ shownAll us :=
  List.flatMap_append

@[simp] theorem shownAll_literalToken (t : List Char) : shownAll (literalToken t.reverse) = t := by
  cases t with
  | nil => rfl
  | cons c t => simp [literalToken, Token.shown]

def namesOf (ts : List Token) : List String :=
  ts.filterMap Token.name?

@[simp] theorem namesOf_text (t : List Char) : namesOf (literalToken t) = [] := by
  cases t <;> rfl

@[simp] theorem namesOf_unclosed (t text : List Char) :
    namesOf (literalToken t ++ [.literal text]) = [] := by
  cases t <;> rfl

@[simp] theorem namesOf_placeholder (t name : List Char) (ts : List Token) :
    namesOf (literalToken t ++ .placeholder name :: ts) = String.ofList name :: namesOf ts := by
  cases t <;> rfl

/-! ## The ends of a rendered line -/

theorem Cuts.head?_shownAll (h : Cuts ts line) : (shownAll ts).head? = line.head? := by
  induction h with
  | nil => rfl
  | @literal ts t line ht _ _ =>
    obtain ⟨c, t, rfl⟩ := List.exists_cons_of_ne_nil ht
    rfl
  | placeholder _ _ => rfl

theorem Cuts.getLast?_shownAll (h : Cuts ts line) : (shownAll ts).getLast? = line.getLast? := by
  induction h with
  | nil => rfl
  | literal _ _ ih => simp [Token.shown, List.getLast?_append, ih]
  | placeholder _ ih => simp [Token.shown, List.getLast?_append, List.getLast?_cons, ih]

/-! ## Reading a rendered line -/

theorem noPair_trimList {brace : Char} {name : List Char} (h : NoPair brace (name ++ [brace])) :
    NoPair brace (Text.trimList name) :=
  List.IsChain.infix (noPair_concat.mp h).1 (Text.stripList_isInfix _ name)

/-- A name that does not end in a closing brace is read back. -/
theorem Delimits.shownAll (h : Delimits ts line)
    (hnames : ∀ name ∈ namesOf ts, name.toList.getLast? ≠ some '\x7d') :
    Delimits ts (shownAll ts) := by
  induction h with
  | text ht =>
    rw [shownAll_literalToken]
    exact .text ht
  | unclosed ht hname => simpa [Token.shown] using Delimits.unclosed ht hname
  | @placeholder ts t name line ht hname _ ih =>
    rw [namesOf_placeholder, List.forall_mem_cons, String.toList_ofList] at hnames
    obtain ⟨hlast, hnames⟩ := hnames
    have hshown := Delimits.placeholder ht
      (noPair_concat.mpr ⟨noPair_trimList hname, hlast⟩) (ih hnames)
    rw [Text.trimList_trimList] at hshown
    simpa [Token.shown] using hshown

/-- Names that are read back do not end in a closing brace: such a name would lose it. -/
theorem Delimits.getLast?_ne (h : Delimits ts line)
    (hnames : namesOf (tokens (Template.shownAll ts)) = namesOf ts) :
    ∀ name ∈ namesOf ts, name.toList.getLast? ≠ some '\x7d' := by
  induction h with
  | text _ => simp
  | unclosed _ _ => simp
  | @placeholder ts t name line ht hname _ ih =>
    have hpair := noPair_trimList hname
    have hline : ∀ m after, Text.trimList name ++ ['\x7d', '\x7d'] = m ++ '\x7d' :: '\x7d' :: after →
        Template.shownAll (literalToken t.reverse ++ .placeholder (Text.trimList name) :: ts) =
          t ++ '\x7b' :: '\x7b' :: (m ++ '\x7d' :: '\x7d' :: (after ++ Template.shownAll ts)) := by
      intro m after hm
      simp [Token.shown, hm]
    rw [namesOf_placeholder] at hnames ⊢
    by_cases hlast : (Text.trimList name).getLast? = some '\x7d'
    · obtain ⟨m, hm⟩ := List.getLast?_eq_some_iff.mp hlast
      have hcut := Delimits.placeholder ht (hm ▸ hpair)
        (delimits_tokens ('\x7d' :: Template.shownAll ts))
      rw [hline m ['\x7d'] (by simp [hm]), List.singleton_append, ← hcut.eq_tokens,
        namesOf_placeholder] at hnames
      have hm' : Text.trimList m = Text.trimList name :=
        String.ofList_injective (List.cons.inj hnames).1
      have hle := (Text.stripList_isInfix Text.isBlank m).length_le
      have hlen := congrArg List.length (hm'.trans hm)
      rw [Text.trimList, List.length_append, List.length_singleton] at hlen
      omega
    · have hcut := Delimits.placeholder ht (noPair_concat.mpr ⟨hpair, hlast⟩)
        (delimits_tokens (Template.shownAll ts))
      rw [hline _ [] rfl, List.nil_append, ← hcut.eq_tokens, namesOf_placeholder] at hnames
      rw [List.forall_mem_cons, String.toList_ofList]
      exact ⟨hlast, ih (List.cons.inj hnames).2⟩

end Template

variable {mapping : Mapping} {line source source' : String} {p : Pattern} {segments : List Segment}

/-! ## Rendering a pattern -/

theorem Segment.toList_rendered (segment : Segment) :
    segment.rendered.toList = segment.token.shown := by
  cases segment with
  | literal escaped => exact String.toList_ofList
  | placeholder name fragment =>
    rw [rendered, String.toList_append, String.toList_append]
    rfl

theorem Segment.name?_token (segment : Segment) :
    segment.token.name? = segment.placeholderName? := by
  cases segment with
  | literal escaped => rfl
  | placeholder name fragment => simp [token, Template.Token.name?, placeholderName?]

theorem IsCutInto.namesOf_tokens (h : IsCutInto mapping source segments) :
    Template.namesOf (Template.tokens source.toList) =
      segments.filterMap Segment.placeholderName? := by
  rw [← h.map_token, Template.namesOf, List.filterMap_map]
  exact List.filterMap_congr fun segment _ => segment.name?_token

theorem IsCutInto.toList_rendered (h : IsCutInto mapping source segments) :
    (String.join (segments.map Segment.rendered)).toList =
      Template.shownAll (Template.tokens source.toList) := by
  rw [← h.map_token, Template.shownAll, String.toList_join, List.flatMap_map, List.flatMap_map]
  exact List.flatMap_congr fun segment _ => segment.toList_rendered

theorem IsCutInto.congr (h : IsCutInto mapping source segments)
    (htokens : Template.tokens source'.toList = Template.tokens source.toList) :
    IsCutInto mapping source' segments := by
  unfold IsCutInto at h ⊢
  rw [htokens]
  refine h.imp fun token segment hsegment => ?_
  rcases segmentOf_ok hsegment with ⟨t, rfl, rfl⟩ | ⟨name, fragment, rfl, hget, rfl⟩
  · rfl
  · simp [Pattern.segmentOf, hget]

namespace Pattern

theorem toList_render (hcompile : compile mapping line = .ok p) :
    Text.trim p.render = p.render ∧
      p.render.toList = Template.shownAll (Template.tokens (Text.trim line).toList) := by
  obtain ⟨hcut, -⟩ := compile_ok hcompile
  have hcuts := Template.cuts_tokens (Text.trim line).toList
  have htrim : Text.trim (String.join (p.segments.map Segment.rendered)) =
      String.join (p.segments.map Segment.rendered) := by
    rw [Text.trim, hcut.toList_rendered, Text.trimList, Text.stripList_eq_self,
      ← hcut.toList_rendered, String.ofList_toList]
    · intro c hc
      rw [hcuts.head?_shownAll, Text.trim, String.toList_ofList] at hc
      exact Text.not_head?_stripList hc
    · intro c hc
      rw [hcuts.getLast?_shownAll, Text.trim, String.toList_ofList] at hc
      exact Text.not_getLast?_stripList hc
  have hrender : p.render = String.join (p.segments.map Segment.rendered) := by
    rw [render, ← htrim, Text.trimSpaces_trim]
  rw [hrender]
  exact ⟨htrim, hcut.toList_rendered⟩

/-- Segments whose expression was compiled before are compiled again. -/
theorem exists_ofSegments (p : Pattern)
    (h : p.expression = Text.trimSpaces (String.join (p.segments.map Segment.expression)))
    (source : String) : ∃ q, ofSegments source p.segments = .ok q := by
  have hparse := p.parse_eq
  rw [h] at hparse
  unfold ofSegments
  dsimp only
  split
  · exact ⟨_, rfl⟩
  · next refusal hrefusal =>
    rw [hparse] at hrefusal
    cases hrefusal

/-- A name that ends in a closing brace is written with a blank behind it. -/
theorem compile_render_of_brace :
    ∃ p, compile (.ofList [("X\x7d", "a")]) "set \x7b\x7bX\x7d \x7d\x7d" = .ok p ∧
      p.render = "set \x7b\x7bX\x7d\x7d\x7d" ∧
      ¬ ∃ q, compile (.ofList [("X\x7d", "a")]) p.render = .ok q ∧ q.names = p.names ∧
        q.expression = p.expression := by
  have hcompile : (compile (.ofList [("X\x7d", "a")])
      "set \x7b\x7bX\x7d \x7d\x7d").toOption.map Pattern.segments =
        some [.literal "set ", .placeholder "X\x7d" "a"] := by
    decide +kernel
  obtain ⟨p, hp, hsegments⟩ := Except.exists_eq_ok hcompile
  have hrender : p.render = "set \x7b\x7bX\x7d\x7d\x7d" := by
    rw [render, hsegments]
    decide +kernel
  have hundefined : compile (.ofList [("X\x7d", "a")]) "set \x7b\x7bX\x7d\x7d\x7d" =
      .error (.undefinedVariable "X" "set \x7b\x7bX\x7d\x7d\x7d") :=
    Except.eq_error (by decide +kernel)
  refine ⟨p, hp, hrender, ?_⟩
  rintro ⟨q, hq, -, -⟩
  rw [hrender, hundefined] at hq
  cases hq

/-- A rendered pattern compiles to a pattern with the same names and the same expression if and only
if none of its names ends in a closing brace. -/
theorem compile_render_iff (hcompile : compile mapping line = .ok p) :
    (∃ q, compile mapping p.render = .ok q ∧ q.names = p.names ∧ q.expression = p.expression) ↔
      ∀ name ∈ p.names, name.toList.getLast? ≠ some '\x7d' := by
  obtain ⟨hcut, hexpression⟩ := compile_ok hcompile
  obtain ⟨htrim, hrender⟩ := toList_render hcompile
  have hdelimits := Template.delimits_tokens (Text.trim line).toList
  constructor
  · rintro ⟨q, hq, hnames, -⟩
    obtain ⟨hcut', -⟩ := compile_ok hq
    have hsame : Template.namesOf (Template.tokens p.render.toList) =
        Template.namesOf (Template.tokens (Text.trim line).toList) := by
      rw [hcut.namesOf_tokens, ← htrim, hcut'.namesOf_tokens]
      exact hnames
    rw [hrender] at hsame
    have hlast := hdelimits.getLast?_ne hsame
    rwa [hcut.namesOf_tokens] at hlast
  · intro hlast
    have hlast' : ∀ name ∈ Template.namesOf (Template.tokens (Text.trim line).toList),
        name.toList.getLast? ≠ some '\x7d' := by
      rw [hcut.namesOf_tokens]
      exact hlast
    have htokens := (hdelimits.shownAll hlast').eq_tokens
    rw [← hrender, ← htrim] at htokens
    obtain ⟨q, hq⟩ := p.exists_ofSegments hexpression (Text.trim p.render)
    obtain ⟨-, hsegments, hexpression'⟩ := ofSegments_ok hq
    refine ⟨q, ?_, ?_, ?_⟩
    · exact Except.bind_eq_ok.mpr ⟨_, Except.mapM_eq_ok.mpr (hcut.congr htokens.symm), hq⟩
    · rw [names, hsegments]
      rfl
    · rw [hexpression', hexpression]

/-- A name that begins with a closing brace, between braces that are literal text. -/
theorem compile_render_iff_inner :
    ∃ p, compile (.ofList [("\x7dX", "a|b")])
        " set \x7d\x7b\x7b \x7dX \x7d\x7d\x7d \x7b\x7bY" = .ok p ∧
      p.render = "set \x7d\x7b\x7b\x7dX\x7d\x7d\x7d \x7b\x7bY" ∧
      ∃ q, compile (.ofList [("\x7dX", "a|b")]) p.render = .ok q ∧ q.names = p.names ∧
        q.expression = p.expression := by
  have hcompile : (compile (.ofList [("\x7dX", "a|b")])
      " set \x7d\x7b\x7b \x7dX \x7d\x7d\x7d \x7b\x7bY").toOption.map Pattern.segments =
        some [.literal "set \\\x7d", .placeholder "\x7dX" "a|b", .literal "\\\x7d ",
          .literal "\\\x7b\\\x7bY"] := by
    decide +kernel
  obtain ⟨p, hp, hsegments⟩ := Except.exists_eq_ok hcompile
  have hrender : p.render = "set \x7d\x7b\x7b\x7dX\x7d\x7d\x7d \x7b\x7bY" := by
    rw [render, hsegments]
    decide +kernel
  have hnames : ∀ name ∈ p.names, name.toList.getLast? ≠ some '\x7d' := by
    rw [names, hsegments]
    decide +kernel
  exact ⟨p, hp, hrender, (compile_render_iff hp).mpr hnames⟩

end Pattern
end Conformance
