import Conformance.Proofs.Catalog
import Conformance.Proofs.Regex.Independence
import Conformance.Proofs.Template.Segment
import Mathlib.Data.List.Nodup

/-!
# Fragments that are not patterns

Fragments are put into the expression of a line as they are, and only the whole is read. Where it can
be read, the groups that the fragments open and close even out. So if no fragment closes what another
one leaves open, the line is a pattern only if each fragment is one, and it is one then unless two
groups share a name.
-/
namespace Conformance

open Regex (Flags IsCalm IsComplete IsOpenEnded IsQuiet Reading escapeList)

variable {mapping : Mapping} {line source fragment : String} {segment : Segment}
  {segments : List Segment} {r r' : Reading} {w : List Char}

/-! ## Lines -/

namespace Segment

def fragment? : Segment → Option String
  | literal _ => none
  | placeholder _ fragment => some fragment

def IsEscaped : Segment → Prop
  | literal escaped => ∃ t, escaped = String.ofList (escapeList t)
  | placeholder _ _ => True

end Segment

theorem isQuiet_expressionOf (hescaped : ∀ s ∈ segments, s.IsEscaped)
    (hnone : segments.filterMap Segment.fragment? = []) {n : Nat} (hw : IsQuiet n w) :
    IsQuiet n (expressionOf segments ++ w) := by
  induction segments with
  | nil => exact hw
  | cons segment segments ih =>
    rw [List.forall_mem_cons] at hescaped
    cases segment with
    | literal escaped =>
      obtain ⟨t, rfl⟩ := hescaped.1
      rw [expressionOf_cons, List.append_assoc, Segment.expression, String.toList_ofList]
      exact Regex.isQuiet_escapeList (ih hescaped.2 hnone) t
    | placeholder name fragment => cases hnone

theorem isOpenEnded_expressionOf {flags : Flags} (hescaped : ∀ s ∈ segments, s.IsEscaped)
    (hfragments : ∀ f ∈ segments.filterMap Segment.fragment?,
      ']' ∉ f.toList ∧ IsCalm flags f.toList) (hw : IsOpenEnded flags w) :
    IsOpenEnded flags (expressionOf segments ++ w) := by
  induction segments with
  | nil => exact hw
  | cons segment segments ih =>
    rw [List.forall_mem_cons] at hescaped
    rw [expressionOf_cons, List.append_assoc]
    cases segment with
    | literal escaped =>
      obtain ⟨t, rfl⟩ := hescaped.1
      rw [Segment.expression, String.toList_ofList]
      exact Regex.isOpenEnded_escapeList (ih hescaped.2 hfragments) t
    | placeholder name fragment =>
      have hall := List.forall_mem_cons.mp hfragments
      have hcalm : IsCalm flags ('(' :: '?' :: ':' :: fragment.toList) := fun hverbose => by
        simpa [Regex.endsComments] using hall.1.2 hverbose
      have htext := (ih hescaped.2 hall.2).append (t := '(' :: '?' :: ':' :: fragment.toList)
        (by simpa using hall.1.1) hcalm
      simpa [toList_expression_placeholder] using htext

theorem length_outer_of_readAll (hescaped : ∀ s ∈ segments, s.IsEscaped)
    (hnone : segments.filterMap Segment.fragment? = [])
    (h : r.readAll (expressionOf segments ++ [')', '$']) = .ok r') :
    r.outer.length = r'.outer.length + 1 :=
  Reading.readAll_quiet (isQuiet_expressionOf hescaped hnone (.close (.dollar .nil))) h

/-- Where a line can be read to its end, its fragments change the number of open groups by what they
open and close, and the parenthesis behind the line closes one. -/
theorem count_of_readAll (hescaped : ∀ s ∈ segments, s.IsEscaped)
    (hsettled : Regex.AreSettled (segments.filterMap Segment.fragment?))
    (hr : segments.filterMap Segment.fragment? = [] ∨ r.IsTerse)
    (h : r.readAll (expressionOf segments ++ [')', '$']) = .ok r') :
    (∀ f ∈ segments.filterMap Segment.fragment?, ∃ q, Regex.readGrouped f = .ok q) ∧
      (r'.outer.length + 1 : Int) =
        r.outer.length + Regex.totalSurplus (segments.filterMap Segment.fragment?) := by
  induction segments generalizing r r' with
  | nil =>
    have hcount := length_outer_of_readAll hescaped rfl h
    exact ⟨fun _ hf => absurd hf List.not_mem_nil, by simp [hcount, Regex.totalSurplus]⟩
  | cons segment segments ih =>
    have hall := List.forall_mem_cons.mp hescaped
    cases segment with
    | literal escaped =>
      rcases hr with hnone | hterse
      · have hcount := length_outer_of_readAll hescaped hnone h
        rw [hnone]
        exact ⟨fun _ hf => absurd hf List.not_mem_nil, by simp [hcount, Regex.totalSurplus]⟩
      · obtain ⟨t, rfl⟩ := hall.1
        rw [expressionOf_cons, List.append_assoc, Segment.expression, String.toList_ofList] at h
        obtain ⟨l, hl, hreach⟩ := Regex.exists_reaches_escapeList hterse.level t
          (expressionOf segments ++ [')', '$'])
        rw [hreach.readAll] at h
        exact ih (r := r.withLevel l) hall.2 hsettled (.inr (hterse.withLevel hl)) h
    | placeholder name fragment =>
      have hterse := hr.resolve_left (List.cons_ne_nil _ _)
      have htext : (Segment.placeholder name fragment).expression.toList ++
          (expressionOf segments ++ [')', '$']) = '(' :: '?' :: ':' ::
            (fragment.toList ++ ')' :: (expressionOf segments ++ [')', '$'])) := by
        simp [toList_expression_placeholder]
      rw [expressionOf_cons, List.append_assoc, htext, Regex.readAll_openGroup] at h
      have hend : ∀ flags, IsOpenEnded flags [')', '$'] := fun flags =>
        .sign (.inr rfl) (.sign (.inl rfl) .nil)
      obtain ⟨hgrouped, r₂, levels, hrest, hr₂, hcount⟩ := hsettled.1.exists_readAll hterse
        (fun flags hbehind => isOpenEnded_expressionOf hall.2 hbehind (hend flags)) h
      obtain ⟨hlater, hcount'⟩ := ih hall.2 hsettled.2 hr₂ hrest
      have hinside : (r'.inside levels []).outer.length = r'.outer.length + levels.length :=
        List.length_append
      have htotal : Regex.totalSurplus ((Segment.placeholder name fragment :: segments).filterMap
          Segment.fragment?) = Regex.surplus fragment +
            Regex.totalSurplus (segments.filterMap Segment.fragment?) := rfl
      refine ⟨List.forall_mem_cons.mpr ⟨hgrouped, hlater⟩, ?_⟩
      rw [htotal]
      rw [hinside] at hcount'
      omega

theorem isWhole_of_isComplete (hescaped : ∀ s ∈ segments, s.IsEscaped)
    (hsettled : Regex.AreSettled (segments.filterMap Segment.fragment?))
    (hcomplete : ∀ f ∈ segments.filterMap Segment.fragment?, IsComplete f) :
    ∀ s ∈ segments, s.IsWhole := by
  intro s hs
  cases s with
  | literal escaped => exact hescaped _ hs
  | placeholder name fragment =>
    have hmem : fragment ∈ segments.filterMap Segment.fragment? :=
      List.mem_filterMap.mpr ⟨_, hs, rfl⟩
    exact hsettled.exists_isWhole fragment hmem (hcomplete fragment hmem)

theorem isComplete_anchored_iff {expression : String}
    (hexpression : expression.toList = expressionOf segments)
    (hescaped : ∀ s ∈ segments, s.IsEscaped)
    (hfragments : Regex.AreIndependent (segments.filterMap Segment.fragment?)) :
    IsComplete (anchored expression) ↔
      ∀ f ∈ segments.filterMap Segment.fragment?, IsComplete f := by
  constructor
  · rintro ⟨r, hread, houter⟩
    rw [readAll_anchored, hexpression] at hread
    have hstart : (⟨.start {}, [anchorLevel], []⟩ : Reading).IsTerse :=
      ⟨rfl, List.forall_mem_singleton.mpr rfl⟩
    obtain ⟨hgrouped, hcount⟩ := count_of_readAll hescaped hfragments.settled (.inr hstart) hread
    rw [houter] at hcount
    refine hfragments.isComplete hgrouped ?_
    simp only [List.length_nil, List.length_singleton] at hcount
    omega
  · intro hcomplete
    have hadds := adds_expressionOf (isWhole_of_isComplete hescaped hfragments.settled hcomplete)
    rw [← hexpression] at hadds
    obtain ⟨r, hread, houter, -, -⟩ := exists_readAll_anchored hadds
    exact ⟨r, hread, houter⟩

theorem flatMap_captureNames (segments : List Segment) :
    segments.flatMap Segment.captureNames =
      (segments.filterMap Segment.fragment?).flatMap Regex.captureNames := by
  induction segments with
  | nil => rfl
  | cons segment segments ih =>
    rw [List.flatMap_cons, ih]
    cases segment with
    | literal escaped => rfl
    | placeholder name fragment => rfl

theorem perm_captureNames {expression : String}
    (hexpression : expression.toList = expressionOf segments)
    (hwhole : ∀ s ∈ segments, s.IsWhole) : (Regex.captureNames (anchored expression)).Perm
      ((segments.filterMap Segment.fragment?).flatMap Regex.captureNames) := by
  have hadds := adds_expressionOf hwhole
  rw [← hexpression] at hadds
  obtain ⟨r, hread, -, hnames, -⟩ := exists_readAll_anchored hadds
  rw [Regex.captureNames, hread, ← flatMap_captureNames]
  show r.names.Perm _
  rw [hnames]
  exact (List.reverse_perm segments).flatMap_right _

/-- A line is no pattern if one of its fragments is none, or two groups in them have one name. -/
theorem exists_fault_anchored_iff {expression : String}
    (hexpression : expression.toList = expressionOf segments)
    (hescaped : ∀ s ∈ segments, s.IsEscaped)
    (hfragments : Regex.AreIndependent (segments.filterMap Segment.fragment?)) :
    (∃ fault, Regex.parse (anchored expression) = .error (.fault fault)) ↔
      (∃ f ∈ segments.filterMap Segment.fragment?, ∃ fault,
          Regex.parse f = .error (.fault fault)) ∨
        ¬ ((segments.filterMap Segment.fragment?).flatMap Regex.captureNames).Nodup := by
  have hanchored := isComplete_anchored_iff hexpression hescaped hfragments
  have hperm := fun hcomplete => perm_captureNames hexpression
    (isWhole_of_isComplete hescaped hfragments.settled hcomplete)
  simp only [Regex.exists_fault_iff]
  constructor
  · intro hline
    by_cases hcomplete : ∀ f ∈ segments.filterMap Segment.fragment?, IsComplete f
    · exact .inr fun hnodup =>
        hline (hanchored.mpr hcomplete) ((hperm hcomplete).nodup_iff.mpr hnodup)
    · push Not at hcomplete
      obtain ⟨f, hf, hincomplete⟩ := hcomplete
      exact .inl ⟨f, hf, fun h => (hincomplete h).elim⟩
  · intro hbad hline hnodup
    have hcomplete := hanchored.mp hline
    rw [(hperm hcomplete).nodup_iff] at hnodup
    rcases hbad with ⟨f, hf, hbad⟩ | hbad
    · exact hbad (hcomplete f hf) ((List.nodup_flatMap.mp hnodup).1 f hf)
    · exact hbad hnodup

/-! ## Compiling -/

namespace Pattern

def fragmentOf (mapping : Mapping) : Template.Token → Option String
  | .literal _ => none
  | .placeholder name => mapping.get? (String.ofList name)

def fragments (mapping : Mapping) (line : String) : List String :=
  (Template.tokens (Text.trim line).toList).filterMap (fragmentOf mapping)

def IsDefined (mapping : Mapping) (line : String) : Prop :=
  ∀ name, .placeholder name ∈ Template.tokens (Text.trim line).toList →
    (mapping.get? (String.ofList name)).isSome = true

theorem ofSegments_error {refusal : Regex.Refusal} :
    ofSegments source segments = .error (.invalidPattern source refusal) ↔
      Regex.parse (anchored (Text.trimSpaces (String.join (segments.map Segment.expression)))) =
        .error refusal := by
  unfold ofSegments
  dsimp only
  split
  · next regex hparse => simp only [hparse, reduceCtorEq]
  · next refusal' hparse =>
    simp only [hparse, Except.error.injEq, CompileError.invalidPattern.injEq, true_and]

theorem exists_isCutInto (h : IsDefined mapping line) : ∃ segments,
    IsCutInto mapping (Text.trim line) segments ∧
      compile mapping line = ofSegments (Text.trim line) segments := by
  have hsegments : ∀ t ∈ Template.tokens (Text.trim line).toList,
      ∃ segment, segmentOf mapping (Text.trim line) t = .ok segment := by
    intro t ht
    cases t with
    | literal text => exact ⟨_, rfl⟩
    | placeholder name =>
      obtain ⟨fragment, hfragment⟩ := Option.isSome_iff_exists.mp (h name ht)
      refine ⟨.placeholder (String.ofList name) fragment, ?_⟩
      rw [segmentOf, hfragment]
  obtain ⟨segments, hsegments⟩ := Except.exists_mapM_eq_ok hsegments
  refine ⟨segments, Except.mapM_eq_ok.mp hsegments, ?_⟩
  simp only [compile, hsegments]
  rfl

end Pattern

theorem IsCutInto.filterMap_fragment (h : IsCutInto mapping (Text.trim line) segments) :
    segments.filterMap Segment.fragment? = Pattern.fragments mapping line := by
  unfold IsCutInto at h
  unfold Pattern.fragments
  generalize Template.tokens (Text.trim line).toList = ts at h ⊢
  induction h with
  | nil => rfl
  | cons hfirst _ ih =>
    rcases segmentOf_ok hfirst with ⟨t, rfl, rfl⟩ | ⟨name, fragment, rfl, hget, rfl⟩
    · exact ih
    · have htoken : Pattern.fragmentOf mapping (.placeholder name) = some fragment := hget
      rw [List.filterMap_cons_some htoken, ← ih]
      rfl

theorem IsCutInto.isEscaped (h : IsCutInto mapping source segments) :
    ∀ s ∈ segments, s.IsEscaped := by
  intro s hs
  obtain ⟨token, hsegment⟩ := h.exists_token hs
  rcases segmentOf_ok hsegment with ⟨t, rfl, rfl⟩ | ⟨name, fragment, rfl, -, rfl⟩
  · exact ⟨t, rfl⟩
  · trivial

namespace Pattern

/-- A line whose fragments leave one another alone is refused for a fault in its pattern if a fragment
has a fault of its own, or if two groups in the fragments have one name. -/
theorem invalidPattern_iff (hdefined : IsDefined mapping line)
    (hfragments : Regex.AreIndependent (fragments mapping line)) :
    (∃ fault, compile mapping line =
        .error (.invalidPattern (Text.trim line) (.fault fault))) ↔
      (∃ f ∈ fragments mapping line, ∃ fault, Regex.parse f = .error (.fault fault)) ∨
        ¬ ((fragments mapping line).flatMap Regex.captureNames).Nodup := by
  obtain ⟨segments, hcut, hcompile⟩ := exists_isCutInto hdefined
  rw [← hcut.filterMap_fragment] at hfragments ⊢
  simp only [hcompile, ofSegments_error, trimSpaces_expression hcut]
  exact exists_fault_anchored_iff (toList_join_expression segments) hcut.isEscaped hfragments

/-- A fragment of two branches in front of one whose class has no end. -/
theorem invalidPattern_iff_unclosed :
    ∃ fault, compile (.ofList [("PORT", "ge-0|et-0"), ("BAD", "[unclosed")])
        " set \x7b\x7bPORT\x7d\x7d \x7b\x7bBAD\x7d\x7d" =
      .error (.invalidPattern (Text.trim " set \x7b\x7bPORT\x7d\x7d \x7b\x7bBAD\x7d\x7d")
        (.fault fault)) := by
  have hfragments : fragments (.ofList [("PORT", "ge-0|et-0"), ("BAD", "[unclosed")])
      " set \x7b\x7bPORT\x7d\x7d \x7b\x7bBAD\x7d\x7d" = ["ge-0|et-0", "[unclosed"] := by
    decide +kernel
  have hdefined : IsDefined (.ofList [("PORT", "ge-0|et-0"), ("BAD", "[unclosed")])
      " set \x7b\x7bPORT\x7d\x7d \x7b\x7bBAD\x7d\x7d" := by
    intro name hname
    have htokens : Template.tokens
        (Text.trim " set \x7b\x7bPORT\x7d\x7d \x7b\x7bBAD\x7d\x7d").toList =
          [.literal "set ".toList, .placeholder "PORT".toList, .literal " ".toList,
            .placeholder "BAD".toList] := by
      decide +kernel
    rw [htokens] at hname
    simp only [List.mem_cons, List.not_mem_nil, reduceCtorEq, Template.Token.placeholder.injEq,
      false_or, or_false] at hname
    rcases hname with rfl | rfl <;> decide +kernel
  have hindependent : Regex.AreIndependent ["ge-0|et-0", "[unclosed"] := by
    obtain ⟨r, hport, -⟩ := Except.exists_eq_ok (x := Regex.readGrouped "ge-0|et-0")
      (f := Reading.outer) (b := List.replicate 9 (.start {})) (by decide +kernel)
    have hbad : Regex.LeavesClassOpen "[unclosed" (.deep "[unclosed") := by
      refine ⟨"unclosed".toList, .refl, fun found hfound => ?_⟩
      have hopen : Regex.readClass {} "unclosed".toList = .error .unclosedClass := by decide +kernel
      cases hopen.symm.trans hfound
    have hcomplete : IsComplete "ge-0|et-0" :=
      Except.exists_eq_ok (f := Reading.outer) (by decide +kernel)
    refine ⟨⟨Regex.isSettled_of_readGrouped (by decide) hport, ?_, trivial⟩, ?_,
      .inl (by decide +kernel)⟩
    · exact Regex.isSettled_of_leavesClassOpen (by decide) hbad fun _ hf => nomatch hf
    · intro f hf q hq _
      simp only [List.mem_cons, List.not_mem_nil, or_false] at hf
      rcases hf with rfl | rfl
      · exact hcomplete
      · have hnone : Regex.readGrouped "[unclosed" = .error .unclosedClass := by decide +kernel
        cases hnone.symm.trans hq
  rw [← hfragments] at hindependent
  refine (invalidPattern_iff hdefined hindependent).mpr (.inl ?_)
  rw [hfragments]
  exact ⟨"[unclosed", by decide, .unclosedClass, by decide +kernel⟩

def rowLine : String :=
  "\x7b\x7bA\x7d\x7d\x7b\x7bB\x7d\x7d\x7b\x7bC\x7d\x7d"

def rowMapping (a b c : String) : Mapping :=
  .ofList [("A", a), ("B", b), ("C", c)]

theorem isDefined_row (a b c : String) : IsDefined (rowMapping a b c) rowLine ∧
    fragments (rowMapping a b c) rowLine = [a, b, c] := by
  have htokens : Template.tokens (Text.trim rowLine).toList =
      [.placeholder "A".toList, .placeholder "B".toList, .placeholder "C".toList] := by
    decide +kernel
  have hA : (rowMapping a b c).get? "A" = some a := by
    simp [rowMapping, Catalog.ofList, Catalog.get?_insert_of_ne]
  have hB : (rowMapping a b c).get? "B" = some b := by
    simp [rowMapping, Catalog.ofList, Catalog.get?_insert_of_ne]
  have hC : (rowMapping a b c).get? "C" = some c := by
    simp [rowMapping, Catalog.ofList]
  constructor
  · intro name hname
    rw [htokens] at hname
    simp only [List.mem_cons, List.not_mem_nil, Template.Token.placeholder.injEq,
      or_false] at hname
    rcases hname with rfl | rfl | rfl <;> simp [hA, hB, hC]
  · simp [fragments, htokens, fragmentOf, hA, hB, hC]

/-- Rows in which parentheses, brackets or comments of one fragment are ended by the next. -/
def mendedRows : List (String × String × String) :=
  [("a)(?:b", "", ""), ("a)", "(b", ""), ("[a", "b]", ""), ("(?x)(", "a#", "(\n)")]

/-- Rows of patterns with two groups of one name, or with a comment that no fragment ends. -/
def clashingRows : List (String × String × String) :=
  [("(?P<_>a)", "(?P<_>b)", ""), ("(?x)a#", "", "")]

/-- Fragments that are no patterns can make one together, and patterns can make none. -/
theorem row_not_invalidPattern_iff :
    (∀ row ∈ mendedRows, IsDefined (rowMapping row.1 row.2.1 row.2.2) rowLine ∧
      (∃ f ∈ fragments (rowMapping row.1 row.2.1 row.2.2) rowLine,
        ∃ fault, Regex.parse f = .error (.fault fault)) ∧
      ∃ p, compile (rowMapping row.1 row.2.1 row.2.2) rowLine = .ok p) ∧
    ∀ row ∈ clashingRows, IsDefined (rowMapping row.1 row.2.1 row.2.2) rowLine ∧
      (∀ f ∈ fragments (rowMapping row.1 row.2.1 row.2.2) rowLine,
        ∃ e, Regex.parse f = .ok e) ∧
      ∃ fault, compile (rowMapping row.1 row.2.1 row.2.2) rowLine =
        .error (.invalidPattern rowLine (.fault fault)) := by
  simp only [isDefined_row, true_and]
  constructor
  · have hfault : ∀ row ∈ mendedRows, ∃ fault ∈ [.unopenedGroup, .unclosedClass, .unclosedGroup],
        Regex.parse row.1 = .error (.fault fault) := by
      decide +kernel
    have hcompile : ∀ row ∈ mendedRows,
        (compile (rowMapping row.1 row.2.1 row.2.2) rowLine).toOption.isSome = true := by
      decide +kernel
    intro row hrow
    obtain ⟨fault, -, hparse⟩ := hfault row hrow
    exact ⟨⟨row.1, List.mem_cons_self, fault, hparse⟩,
      Except.exists_ok_of_isSome (hcompile row hrow)⟩
  · have hparse : ∀ row ∈ clashingRows, ∀ f ∈ [row.1, row.2.1, row.2.2],
        (Regex.parse f).toOption.isSome = true := by
      decide +kernel
    have hcompile : ∀ row ∈ clashingRows,
        ∃ fault ∈ [Regex.Fault.repeatedCaptureName, .unclosedGroup],
          Except.error? (compile (rowMapping row.1 row.2.1 row.2.2) rowLine) =
            some (.invalidPattern rowLine (.fault fault)) := by
      decide +kernel
    intro row hrow
    obtain ⟨fault, -, herror⟩ := hcompile row hrow
    exact ⟨fun f hf => Except.exists_ok_of_isSome (hparse row hrow f hf), fault,
      Except.eq_error herror⟩

end Pattern
end Conformance
