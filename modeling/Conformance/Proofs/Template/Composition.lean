import Conformance.Deviation.Matching
import Conformance.Proofs.Except
import Conformance.Proofs.Text.Blank
import Conformance.Template.Library
import Mathlib.Logic.Relation

/-!
# Templates made of parts

The lines of a template are those of its parts, one part after the other, and its layout makes no
difference to them. A library compiles as its selected lines do in their order, wherever the baseline
ends and the augmentation begins.
-/
namespace Conformance

variable {line s : List Char} {a b : String} {mapping : Mapping} {library joined : Library}
  {augmentation : Augmentation} {cause : CompileError}

/-! ## What lines say -/

/-- What the lines of a template say, without their numbers. -/
def templateTexts (text : String) : List String :=
  (parseTemplate text).map TemplateLine.text

def lineText? (line : List Char) : Option String :=
  match Text.trimList line with
  | [] | '#' :: _ => none
  | text => some (String.ofList text)

theorem map_text_numberedFrom (n : Nat) (lines : List (List Char)) :
    (numberedFrom n (lines.map String.ofList)).map TemplateLine.text =
      lines.filterMap lineText? := by
  induction lines generalizing n with
  | nil => rfl
  | cons line lines ih =>
    rw [List.map_cons, numberedFrom, String.toList_ofList]
    unfold lineText? at ih ⊢
    split <;> simp [*]

theorem lineText?_concat_return (line : List Char) :
    lineText? (line ++ ['\r']) = lineText? line := by
  have htrim : Text.trimList (line ++ ['\r']) = Text.trimList line :=
    Text.stripList_concat (by decide) line
  rw [lineText?, htrim, lineText?]

theorem lineText?_dropReturn (line : List Char) :
    lineText? (Text.dropReturn line).reverse = lineText? line.reverse := by
  unfold Text.dropReturn
  split
  · rw [List.reverse_cons, lineText?_concat_return]
  · rfl

/-! ## What texts say -/

/-- What the lines of a text say, of which the first has begun with `line`, in reverse. -/
def textsFrom (line s : List Char) : List String :=
  (Text.linesFrom line s).filterMap lineText?

theorem templateTexts_eq (text : String) : templateTexts text = textsFrom [] text.toList :=
  map_text_numberedFrom 1 _

/-- The last line says the same whether or not a line feed ends it. -/
theorem textsFrom_nil (line : List Char) : textsFrom line [] = (lineText? line.reverse).toList := by
  cases line with
  | nil => rfl
  | cons c line =>
    have hlines : Text.linesFrom (c :: line) [] = [(c :: line).reverse] := rfl
    rw [textsFrom, hlines, List.filterMap_cons]
    cases lineText? (c :: line).reverse <;> rfl

theorem textsFrom_feed (line s : List Char) :
    textsFrom line ('\n' :: s) = (lineText? line.reverse).toList ++ textsFrom [] s := by
  have hlines : Text.linesFrom line ('\n' :: s) =
      (Text.dropReturn line).reverse :: Text.linesFrom [] s := rfl
  rw [textsFrom, hlines, List.filterMap_cons, lineText?_dropReturn]
  cases lineText? line.reverse <;> rfl

theorem textsFrom_cons {c : Char} (h : c ≠ '\n') (line s : List Char) :
    textsFrom line (c :: s) = textsFrom (c :: line) s := by
  rw [textsFrom, Text.linesFrom, if_neg (by simpa using h), textsFrom]

theorem textsFrom_append (line s rest : List Char) :
    textsFrom line (s ++ '\n' :: rest) = textsFrom line s ++ textsFrom [] rest := by
  induction s generalizing line with
  | nil => rw [List.nil_append, textsFrom_feed, textsFrom_nil]
  | cons c s ih =>
    rw [List.cons_append]
    by_cases hc : c = '\n'
    · rw [hc, textsFrom_feed, textsFrom_feed, ih, List.append_assoc]
    · rw [textsFrom_cons hc, textsFrom_cons hc, ih]

theorem textsFrom_concat_return (line s : List Char) :
    textsFrom line (s ++ ['\r']) = textsFrom line s := by
  induction s generalizing line with
  | nil =>
    -- The return has come into the last line, where it is trimmed off.
    rw [List.nil_append, textsFrom_cons (by decide), textsFrom_nil, textsFrom_nil,
      List.reverse_cons, lineText?_concat_return]
  | cons c s ih =>
    rw [List.cons_append]
    by_cases hc : c = '\n'
    · rw [hc, textsFrom_feed, textsFrom_feed, ih]
    · rw [textsFrom_cons hc, textsFrom_cons hc, ih]

theorem textsFrom_of_feed_not_mem (h : '\n' ∉ s) (line : List Char) :
    textsFrom line s = (lineText? (line.reverse ++ s)).toList := by
  induction s generalizing line with
  | nil => rw [textsFrom_nil, List.append_nil]
  | cons c s ih =>
    rw [List.mem_cons, not_or] at h
    rw [textsFrom_cons (Ne.symm h.1), ih h.2, List.reverse_cons, List.append_assoc]
    rfl

theorem templateTexts_append (a b : String) :
    templateTexts (a ++ "\n" ++ b) = templateTexts a ++ templateTexts b := by
  have htext : (a ++ "\n" ++ b).toList = a.toList ++ '\n' :: b.toList := by simp
  rw [templateTexts_eq, htext, textsFrom_append, templateTexts_eq, templateTexts_eq]

/-! ## Layout -/

/-- A line that says nothing: it has no character that is not blank, or the first of these is the
sign of a comment. -/
structure IsIdle (line : String) : Prop where
  feed_not_mem : '\n' ∉ line.toList
  first : ∀ c, line.toList.find? (!Text.isBlank ·) = some c → c = '#'

instance (line : String) : Decidable (IsIdle line) :=
  decidable_of_iff ('\n' ∉ line.toList ∧ (line.toList.find? (!Text.isBlank ·)).all (· == '#'))
    ⟨fun h => ⟨h.1, by simpa [Option.all_eq_true] using h.2⟩,
      fun h => ⟨h.1, by simpa [Option.all_eq_true] using h.2⟩⟩

theorem head?_trimList (line : List Char) :
    (Text.trimList line).head? = line.find? (!Text.isBlank ·) := by
  rw [List.find?_eq_head?_dropWhile_not, Text.trimList, Text.head?_stripList_eq]
  simp only [Bool.not_not]

theorem templateTexts_of_feed_not_mem {line : String} (h : '\n' ∉ line.toList) :
    templateTexts line = if IsIdle line then [] else [Text.trim line] := by
  have hfirst := head?_trimList line.toList
  rw [templateTexts_eq, textsFrom_of_feed_not_mem h, List.reverse_nil, List.nil_append, lineText?]
  split
  · next htext =>
    rw [htext] at hfirst
    rw [if_pos ⟨h, fun c hc => nomatch hfirst.trans hc⟩]
    rfl
  · next rest htext =>
    rw [htext] at hfirst
    rw [if_pos ⟨h, fun c hc => (Option.some.inj (hfirst.trans hc)).symm⟩]
    rfl
  · next text hne hcomment =>
    rw [if_neg ?_]
    · rfl
    · intro hidle
      cases htext : Text.trimList line.toList with
      | nil => exact hne htext
      | cons c rest =>
        rw [htext] at hfirst
        obtain rfl := hidle.first c hfirst.symm
        exact hcomment rest htext

theorem IsIdle.templateTexts_eq_nil {line : String} (h : IsIdle line) :
    templateTexts line = [] := by
  rw [templateTexts_of_feed_not_mem h.feed_not_mem, if_pos h]

/-- One change of layout: a line that says nothing is put in front of the other lines, between them or
behind them, or a carriage return is put in front of a line feed. -/
inductive Relaid : String → String → Prop
  | first {line : String} (rest : String) : IsIdle line → Relaid rest (line ++ "\n" ++ rest)
  | between (before : String) {line : String} (rest : String) : IsIdle line →
    Relaid (before ++ "\n" ++ rest) (before ++ "\n" ++ line ++ "\n" ++ rest)
  | last (before : String) {line : String} : IsIdle line → Relaid before (before ++ "\n" ++ line)
  | lineEnd (before rest : String) : Relaid (before ++ "\n" ++ rest) (before ++ "\r\n" ++ rest)

theorem templateTexts_return (text : String) : templateTexts (text ++ "\r") = templateTexts text := by
  rw [templateTexts_eq, String.toList_append, templateTexts_eq]
  exact textsFrom_concat_return [] text.toList

theorem Relaid.templateTexts_eq (h : Relaid a b) : templateTexts a = templateTexts b := by
  cases h with
  | first rest hidle => rw [templateTexts_append, hidle.templateTexts_eq_nil, List.nil_append]
  | between before rest hidle =>
    rw [templateTexts_append, templateTexts_append, templateTexts_append, hidle.templateTexts_eq_nil,
      List.append_nil]
  | last before hidle => rw [templateTexts_append, hidle.templateTexts_eq_nil, List.append_nil]
  | lineEnd before rest =>
    have hend : "\r\n" = "\r" ++ "\n" := by decide
    rw [hend, ← String.append_assoc, templateTexts_append, templateTexts_append, templateTexts_return]

theorem templateTexts_eq_of_eqvGen (h : Relation.EqvGen Relaid a b) :
    templateTexts a = templateTexts b := by
  induction h with
  | rel _ _ h => exact h.templateTexts_eq
  | refl _ => rfl
  | symm _ _ _ ih => exact ih.symm
  | trans _ _ _ _ _ ihab ihbc => exact ihab.trans ihbc

def withReturns (text : String) : String :=
  String.ofList (text.toList.flatMap fun c => if c = '\n' then ['\r', '\n'] else [c])

theorem textsFrom_flatMap_return (line s : List Char) :
    textsFrom line (s.flatMap fun c => if c = '\n' then ['\r', '\n'] else [c]) =
      textsFrom line s := by
  induction s generalizing line with
  | nil => rfl
  | cons c s ih =>
    rw [List.flatMap_cons]
    by_cases hc : c = '\n'
    · rw [if_pos hc, hc, List.cons_append, List.singleton_append, textsFrom_cons (by decide),
        textsFrom_feed, textsFrom_feed, List.reverse_cons, lineText?_concat_return, ih]
    · rw [if_neg hc, List.singleton_append, textsFrom_cons hc, textsFrom_cons hc, ih]

theorem templateTexts_withReturns (text : String) :
    templateTexts (withReturns text) = templateTexts text := by
  rw [templateTexts_eq, withReturns, String.toList_ofList, textsFrom_flatMap_return,
    templateTexts_eq]

/-! ## Libraries -/

/-- One of the lines does not compile, for the cause given, and all lines before it do. -/
def FailsFirst (mapping : Mapping) (texts : List String) (cause : CompileError) : Prop :=
  ∃ before text after, texts = before ++ text :: after ∧
    (∀ earlier ∈ before, ∃ pattern, Pattern.compile mapping earlier = .ok pattern) ∧
    Pattern.compile mapping text = .error cause

def CompiledTemplates.report (compiled : CompiledTemplates) (lines : List String) :
    DeviationReport :=
  findDeviations compiled.mandatory compiled.optional lines

namespace Library

/-- What the lines say that take part under an augmentation, in the order in which they compile. -/
def selectedTexts (library : Library) (augmentation : Augmentation) : List String :=
  (library.baseline ++ augmentation.lines library ++ library.optional).map TemplateLine.text

/-- The baseline and the augmentation compile as one list of lines. -/
theorem compileWith_eq (library : Library) (mapping : Mapping) (augmentation : Augmentation) :
    library.compileWith mapping augmentation = do
      let mandatory ← compileLines mapping (library.baseline ++ augmentation.lines library)
      let optional ← compileLines mapping library.optional
      return ⟨augmentation, mandatory, optional⟩ := by
  simp only [compileWith, compileLines, PatternSet.compile, List.map_append, List.mapM_append,
    bind_assoc, pure_bind]

theorem compileWith_eq_error : library.compileWith mapping augmentation = .error cause ↔
    FailsFirst mapping (library.selectedTexts augmentation) cause := by
  have hall : library.compileWith mapping augmentation = .error cause ↔
      (library.selectedTexts augmentation).mapM (Pattern.compile mapping) = .error cause := by
    rw [compileWith_eq, selectedTexts, List.map_append, List.mapM_append, Except.bind_eq_error,
      Except.bind_eq_error]
    refine or_congr_right (exists_congr fun mandatory => and_congr_right fun _ => ?_)
    rw [Except.bind_eq_error, Except.bind_eq_error]
    refine or_congr_right (exists_congr fun optional => and_congr_right fun _ => ?_)
    constructor <;> exact nofun
  rw [hall, Except.mapM_eq_error, FailsFirst]

theorem compileWith_congr
    (hmandatory : (joined.baseline ++ augmentation.lines joined).map TemplateLine.text =
      (library.baseline ++ augmentation.lines library).map TemplateLine.text)
    (hoptional : joined.optional = library.optional) :
    joined.compileWith mapping augmentation = library.compileWith mapping augmentation := by
  have hlines : compileLines mapping (joined.baseline ++ augmentation.lines joined) =
      compileLines mapping (library.baseline ++ augmentation.lines library) :=
    congrArg (PatternSet.compile mapping) hmandatory
  rw [compileWith_eq, hlines, hoptional, compileWith_eq]

end Library

/-- A line says itself, trimmed, unless it is blank or a comment. A template says what its parts say,
one part after the other, whatever its layout. A library whose augmentation is moved to the end of its
baseline compiles to the same patterns and makes the same reports, or fails as the first line does
that does not compile. -/
theorem templates_compose :
    (∀ line : String, '\n' ∉ line.toList →
      templateTexts line = if IsIdle line then [] else [Text.trim line]) ∧
    (∀ a b, templateTexts (a ++ "\n" ++ b) = templateTexts a ++ templateTexts b) ∧
    (∀ a b, Relation.EqvGen Relaid a b → templateTexts a = templateTexts b) ∧
    (∀ text, templateTexts (withReturns text) = templateTexts text) ∧
    ∀ (library joined : Library) (profile : Profile) (mapping : Mapping) (a b : String),
      library.baseline = parseTemplate a →
      (Augmentation.ofProfile profile).lines library = parseTemplate b →
      joined.baseline = parseTemplate (a ++ "\n" ++ b) →
      (Augmentation.ofProfile profile).lines joined = [] →
      joined.optional = library.optional →
      joined.compile mapping profile = library.compile mapping profile ∧
      (∀ cause, library.compile mapping profile = .error cause ↔
        FailsFirst mapping (library.selectedTexts (.ofProfile profile)) cause) ∧
      ∀ lines, (joined.compile mapping profile).map (·.report lines) =
        (library.compile mapping profile).map (·.report lines) := by
  refine ⟨fun _ => templateTexts_of_feed_not_mem, templateTexts_append,
    fun _ _ => templateTexts_eq_of_eqvGen, templateTexts_withReturns, ?_⟩
  intro library joined profile mapping a b hbaseline haugmentation hjoined hempty hoptional
  have hcompile : joined.compile mapping profile = library.compile mapping profile := by
    refine Library.compileWith_congr ?_ hoptional
    rw [hempty, List.append_nil, hjoined, hbaseline, haugmentation, List.map_append]
    exact templateTexts_append a b
  exact ⟨hcompile, fun _ => Library.compileWith_eq_error, fun _ => by rw [hcompile]⟩

/-- A template of which the last line has no line feed. -/
def sampleTemplate : String :=
  "set system services ssh\n  # later\nset system services netconf"

/-- A template with a line that does not compile unless the name in it is known. -/
def sampleAddition : String :=
  "set vlans office vlan-id \x7b\x7bVLAN\x7d\x7d\n"

def sampleLibrary : Library :=
  ⟨parseTemplate sampleTemplate, parseTemplate sampleAddition, [], [], []⟩

def sampleJoined : Library :=
  ⟨parseTemplate (sampleTemplate ++ "\n" ++ sampleAddition), [], [], [], []⟩

/-- Neither the blank line put in nor the place of the addition makes a difference. -/
theorem templates_compose_sample :
    templateTexts " set system services ssh\r" = ["set system services ssh"] ∧
    templateTexts ("\t\r" ++ "\n" ++ sampleTemplate) =
      ["set system services ssh", "set system services netconf"] ∧
    sampleLibrary.compile .empty ⟨.els, false⟩ =
      .error (.undefinedVariable "VLAN" "set vlans office vlan-id \x7b\x7bVLAN\x7d\x7d") ∧
    sampleJoined.compile .empty ⟨.els, false⟩ = sampleLibrary.compile .empty ⟨.els, false⟩ := by
  obtain ⟨hline, -, hlayout, -, hlibrary⟩ := templates_compose
  obtain ⟨hcompile, herror, -⟩ := hlibrary sampleLibrary sampleJoined ⟨.els, false⟩ .empty
    sampleTemplate sampleAddition rfl rfl rfl rfl rfl
  have hidle : IsIdle "\t\r" := by decide +kernel
  refine ⟨?_, ?_, (herror _).mpr ?_, hcompile⟩
  · exact (hline _ (by decide +kernel)).trans (by decide +kernel)
  · rw [← hlayout _ _ (.rel _ _ (.first sampleTemplate hidle))]
    decide +kernel
  · refine ⟨["set system services ssh", "set system services netconf"],
      "set vlans office vlan-id \x7b\x7bVLAN\x7d\x7d", [], by decide +kernel, ?_,
      Except.eq_error (by decide +kernel)⟩
    rw [List.forall_mem_cons, List.forall_mem_singleton]
    exact ⟨Except.exists_ok_of_isSome (by decide +kernel),
      Except.exists_ok_of_isSome (by decide +kernel)⟩

end Conformance
