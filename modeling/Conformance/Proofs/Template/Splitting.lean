import Conformance.Proofs.Template.Fragments
import Conformance.Proofs.Template.Rendering

/-!
# Splitting a line at pairs of braces

The scan of a line reads one character after the other. It cuts the line where a search for pairs of
braces cuts it: at the first two opening braces, behind them at the first two closing ones, and so on
with the rest. A line is compiled from these pieces and from the fragments of their names alone.
-/
namespace Conformance

namespace Template

variable {ts : List Token} {brace : Char} {t s rest line : List Char}

def textToken (text : List Char) : List Token :=
  if text = [] then [] else [.literal text]

theorem dropInfix?_eq_append {text after : List Char}
    (h : s.dropInfix? [brace, brace] = some (text, after)) :
    s = text ++ brace :: brace :: after := by
  obtain ⟨⟨pair, hs, hpair⟩, -⟩ := List.dropInfix?_eq_some_iff.mp h
  rw [eq_of_beq hpair] at hs
  simpa using hs

theorem length_lt_of_dropInfix? {text after : List Char}
    (h : s.dropInfix? [brace, brace] = some (text, after)) : after.length < s.length := by
  rw [dropInfix?_eq_append h, List.length_append, List.length_cons, List.length_cons]
  omega

/-- The pieces of a line: text up to the first two opening braces, behind them a name up to the first
two closing braces, and then the pieces of what is left. Where no closing braces follow, the opening
ones and all behind them are text of their own. -/
def pieces (line : List Char) : List Token :=
  match _ : line.dropInfix? ['\x7b', '\x7b'] with
  | none => textToken line
  | some (text, behind) =>
    match hclose : behind.dropInfix? ['\x7d', '\x7d'] with
    | none => textToken text ++ [.literal ('\x7b' :: '\x7b' :: behind)]
    | some (name, after) => textToken text ++ .placeholder (Text.trimList name) :: pieces after
termination_by line.length
decreasing_by
  have hopen : line.dropInfix? ['\x7b', '\x7b'] = some (text, behind) := by assumption
  exact (length_lt_of_dropInfix? hclose).trans (length_lt_of_dropInfix? hopen)

/-! ## The search for a pair -/

theorem dropInfix?_of_noPair (h : NoPair brace s) : s.dropInfix? [brace, brace] = none := by
  cases hdrop : s.dropInfix? [brace, brace] with
  | none => rfl
  | some found =>
    rw [dropInfix?_eq_append hdrop] at h
    exact absurd (List.IsChain.right_of_append h) (not_noPair brace found.2)

theorem dropInfix?_append_pair (h : NoPair brace (t ++ [brace])) (rest : List Char) :
    (t ++ brace :: brace :: rest).dropInfix? [brace, brace] = some (t, rest) := by
  apply List.dropInfix?_eq_some_iff.mpr
  refine ⟨⟨[brace, brace], by simp, beq_self_eq_true _⟩, ?_⟩
  intro text pair after hline heq
  rw [eq_of_beq heq] at hline
  by_contra hlt
  -- A pair further to the front would stand within the text and the first brace behind it.
  have hpair : text ++ [brace, brace] <+: t ++ brace :: brace :: rest := ⟨after, hline.symm⟩
  have hfirst : t ++ [brace] <+: t ++ brace :: brace :: rest := ⟨brace :: rest, by simp⟩
  have hprefix : text ++ [brace, brace] <+: t ++ [brace] := by
    apply List.prefix_of_prefix_length_le hpair hfirst
    simp only [List.length_append, List.length_cons, List.length_nil]
    omega
  have hbefore : NoPair brace (text ++ [brace, brace]) := List.IsChain.infix h hprefix.isInfix
  exact not_noPair brace [] (List.IsChain.right_of_append hbefore)

/-! ## The pieces are the tokens -/

theorem literalToken_reverse (t : List Char) : literalToken t.reverse = textToken t := by
  simp [literalToken, textToken]

theorem Delimits.pieces_eq (h : Delimits ts line) : pieces line = ts := by
  induction h with
  | text ht =>
    rw [pieces]
    split
    · exact (literalToken_reverse _).symm
    · next hopen => simp [dropInfix?_of_noPair ht] at hopen
  | @unclosed t name ht hname =>
    rw [pieces]
    split
    · next hopen => simp [dropInfix?_append_pair ht] at hopen
    · next text behind hopen =>
      rw [dropInfix?_append_pair ht] at hopen
      cases hopen
      split
      · rw [literalToken_reverse]
      · next hclose => simp [dropInfix?_of_noPair hname] at hclose
  | @placeholder ts t name line ht hname _ ih =>
    rw [pieces]
    split
    · next hopen => simp [dropInfix?_append_pair ht] at hopen
    · next text behind hopen =>
      rw [dropInfix?_append_pair ht] at hopen
      cases hopen
      split
      · next hclose => simp [dropInfix?_append_pair hname] at hclose
      · next name' after hclose =>
        rw [dropInfix?_append_pair hname] at hclose
        cases hclose
        rw [literalToken_reverse, ih]

theorem pieces_eq_tokens (line : List Char) : pieces line = tokens line :=
  (delimits_tokens line).pieces_eq

end Template

namespace Pattern

variable {mapping mapping' : Mapping} {line source : String} {ts : List Template.Token}

/-- What a piece of a line becomes: literal text is escaped, and a name has its fragment. -/
inductive Becomes (mapping : Mapping) : Template.Token → Segment → Prop
  | literal (text : List Char) :
    Becomes mapping (.literal text) (.literal (String.ofList (Regex.escapeList text)))
  | placeholder {name : List Char} {fragment : String} :
    mapping.get? (String.ofList name) = some fragment →
    Becomes mapping (.placeholder name) (.placeholder (String.ofList name) fragment)

def piecesOf (line : String) : List Template.Token :=
  Template.pieces (Text.trim line).toList

def undefined? (mapping : Mapping) (names : List String) : Option String :=
  names.find? fun name => (mapping.get? name).isNone

theorem becomes_of_segmentOf {token : Template.Token} {segment : Segment}
    (h : segmentOf mapping source token = .ok segment) : Becomes mapping token segment := by
  rcases segmentOf_ok h with ⟨text, rfl, rfl⟩ | ⟨name, fragment, rfl, hget, rfl⟩
  · exact .literal text
  · exact .placeholder hget

/-! ## Compiling the pieces -/

/-- The segments are made from left to right, up to the first name without a fragment. -/
theorem mapM_segmentOf_error {name : String}
    (h : undefined? mapping (Template.namesOf ts) = some name) :
    ts.mapM (segmentOf mapping source) = .error (.undefinedVariable name source) := by
  induction ts with
  | nil => cases h
  | cons token ts ih =>
    rw [List.mapM_cons]
    cases token with
    | literal text =>
      rw [ih h]
      rfl
    | placeholder first =>
      have hnames : Template.namesOf (.placeholder first :: ts) =
          String.ofList first :: Template.namesOf ts := rfl
      rw [undefined?, hnames, List.find?_cons] at h
      cases hget : mapping.get? (String.ofList first) with
      | none =>
        rw [hget] at h
        cases h
        simp only [segmentOf, hget]
        rfl
      | some fragment =>
        rw [hget] at h
        rw [ih h]
        simp only [segmentOf, hget]
        rfl

theorem compile_eq_undefinedVariable {name : String}
    (h : undefined? mapping (Template.namesOf (piecesOf line)) = some name) :
    compile mapping line = .error (.undefinedVariable name (Text.trim line)) := by
  rw [piecesOf, Template.pieces_eq_tokens] at h
  simp only [compile, mapM_segmentOf_error h]
  rfl

theorem isDefined_of_undefined? (h : undefined? mapping (Template.namesOf (piecesOf line)) = none) :
    IsDefined mapping line := by
  intro name hname
  rw [piecesOf, Template.pieces_eq_tokens] at h
  have hmem : String.ofList name ∈ Template.namesOf (Template.tokens (Text.trim line).toList) :=
    List.mem_filterMap.mpr ⟨_, hname, rfl⟩
  have hsome := List.find?_eq_none.mp h _ hmem
  rwa [Bool.not_eq_true, Option.isNone_eq_false_iff] at hsome

theorem segmentOf_congr {token : Template.Token}
    (h : ∀ name ∈ token.name?, mapping.get? name = mapping'.get? name) :
    segmentOf mapping source token = segmentOf mapping' source token := by
  cases token with
  | literal text => rfl
  | placeholder name => rw [segmentOf, segmentOf, h _ rfl]

theorem compile_congr
    (h : ∀ name ∈ Template.namesOf (piecesOf line), mapping.get? name = mapping'.get? name) :
    compile mapping line = compile mapping' line := by
  rw [piecesOf, Template.pieces_eq_tokens] at h
  have hsegments : (Template.tokens (Text.trim line).toList).mapM
      (segmentOf mapping (Text.trim line)) =
        (Template.tokens (Text.trim line).toList).mapM (segmentOf mapping' (Text.trim line)) :=
    Except.mapM_congr fun token htoken => segmentOf_congr fun name hname =>
      h name (List.mem_filterMap.mpr ⟨token, htoken, hname⟩)
  simp only [compile, hsegments]

theorem ofSegments_or (source : String) (segments : List Segment) :
    (∃ p, ofSegments source segments = .ok p ∧ p.segments = segments) ∨
      ∃ refusal, ofSegments source segments = .error (.invalidPattern source refusal) := by
  cases h : ofSegments source segments with
  | ok p => exact .inl ⟨p, rfl, (ofSegments_ok h).2.1⟩
  | error cause =>
    unfold ofSegments at h
    dsimp only at h
    split at h
    · cases h
    · next refusal _ =>
      cases h
      exact .inr ⟨refusal, rfl⟩

/-- A line is compiled by its pieces. Their first name without a fragment is reported, whatever the
other names stand for. If all have one, the pieces in order are the segments that the pattern is made
of, and all that can go wrong is that their expression is refused. Mappings that agree on the names
give the same result. -/
theorem compile_pieces (mapping mapping' : Mapping) (line : String) :
    (∀ name, undefined? mapping (Template.namesOf (piecesOf line)) = some name →
      compile mapping line = .error (.undefinedVariable name (Text.trim line))) ∧
    (undefined? mapping (Template.namesOf (piecesOf line)) = none →
      ∃ segments, List.Forall₂ (Becomes mapping) (piecesOf line) segments ∧
        compile mapping line = ofSegments (Text.trim line) segments ∧
        ((∃ p, compile mapping line = .ok p ∧ p.segments = segments) ∨
          ∃ refusal, compile mapping line = .error (.invalidPattern (Text.trim line) refusal))) ∧
    ((∀ name ∈ Template.namesOf (piecesOf line), mapping.get? name = mapping'.get? name) →
      compile mapping line = compile mapping' line) := by
  refine ⟨fun name => compile_eq_undefinedVariable, fun h => ?_, compile_congr⟩
  obtain ⟨segments, hcut, hcompile⟩ := exists_isCutInto (isDefined_of_undefined? h)
  refine ⟨segments, ?_, hcompile, ?_⟩
  · rw [piecesOf, Template.pieces_eq_tokens]
    exact hcut.imp fun token segment => becomes_of_segmentOf
  · rw [hcompile]
    exact ofSegments_or _ _

/-- A line with names that begin with braces, and with an opening that is not closed. -/
def bracedLine : String :=
  " set \x7b\x7b\x7bA\x7d\x7d\x7d \x7b\x7b \x7dB \x7d\x7d \x7b\x7bC "

theorem piecesOf_bracedLine : piecesOf bracedLine =
    [.literal "set ".toList, .placeholder "\x7bA".toList, .literal "\x7d ".toList,
      .placeholder "\x7dB".toList, .literal " ".toList, .literal "\x7b\x7bC".toList] := by
  rw [piecesOf, Template.pieces_eq_tokens]
  decide +kernel

def bracedMapping : Mapping :=
  .ofList [("\x7bA", "a|b"), ("\x7dB", "c")]

/-- The second name is reported although the first stands for no expression; with fragments for both
there are six segments, and a third name in the mapping changes nothing. -/
theorem compile_pieces_braced :
    undefined? (.ofList [("\x7bA", "(")]) (Template.namesOf (piecesOf bracedLine)) = some "\x7dB" ∧
    compile (.ofList [("\x7bA", "(")]) bracedLine =
      .error (.undefinedVariable "\x7dB" (Text.trim bracedLine)) ∧
    undefined? bracedMapping (Template.namesOf (piecesOf bracedLine)) = none ∧
    (∃ segments, List.Forall₂ (Becomes bracedMapping) (piecesOf bracedLine) segments ∧
      compile bracedMapping bracedLine = ofSegments (Text.trim bracedLine) segments ∧
      ((∃ p, compile bracedMapping bracedLine = .ok p ∧ p.segments = segments) ∨
        ∃ refusal, compile bracedMapping bracedLine =
          .error (.invalidPattern (Text.trim bracedLine) refusal))) ∧
    (∀ name ∈ Template.namesOf (piecesOf bracedLine),
      bracedMapping.get? name = (bracedMapping.insert "C" "d").get? name) ∧
    compile bracedMapping bracedLine = compile (bracedMapping.insert "C" "d") bracedLine := by
  have hundefined : undefined? (.ofList [("\x7bA", "(")])
      (Template.namesOf (piecesOf bracedLine)) = some "\x7dB" := by
    rw [piecesOf_bracedLine]
    decide +kernel
  have hdefined : undefined? bracedMapping (Template.namesOf (piecesOf bracedLine)) = none := by
    rw [piecesOf_bracedLine]
    decide +kernel
  have hagree : ∀ name ∈ Template.namesOf (piecesOf bracedLine),
      bracedMapping.get? name = (bracedMapping.insert "C" "d").get? name := by
    rw [piecesOf_bracedLine]
    decide +kernel
  obtain ⟨-, hsegments, hsame⟩ :=
    compile_pieces bracedMapping (bracedMapping.insert "C" "d") bracedLine
  exact ⟨hundefined, (compile_pieces (.ofList [("\x7bA", "(")]) .empty bracedLine).1 _ hundefined,
    hdefined, hsegments hdefined, hagree, hsame hagree⟩

end Pattern
end Conformance
