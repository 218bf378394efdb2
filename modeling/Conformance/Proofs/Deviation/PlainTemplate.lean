import Conformance.Proofs.Deviation.Remainder
import Conformance.Proofs.Template.Plain
import Mathlib.Data.List.Count

/-!
# Templates without placeholders

Patterns that match nothing but their own text are taken by the lines with that text, one pattern for
each line. An audit against them is a difference of multisets, in both directions.
-/
namespace Conformance

variable {mapping : Mapping} {text : String} {patterns : PatternSet} {line : String}
  {templateLines : List TemplateLine} {t : TemplateLine}

/-! ## Templates -/

theorem mem_numberedFrom {n : Nat} {lines : List String} (h : t ∈ numberedFrom n lines) :
    ∃ line ∈ lines, t.text = Text.trim line := by
  induction lines generalizing n with
  | nil => cases h
  | cons line lines ih =>
    have hlater : t ∈ numberedFrom (n + 1) lines → ∃ l ∈ line :: lines, t.text = Text.trim l :=
      fun hmem => (ih hmem).imp fun _ hl => hl.imp_left (List.mem_cons_of_mem line)
    rw [numberedFrom] at h
    split at h
    · exact hlater h
    · exact hlater h
    · rcases List.mem_cons.mp h with rfl | h
      · exact ⟨line, List.mem_cons_self, rfl⟩
      · exact hlater h

theorem trim_text (h : t ∈ parseTemplate text) : Text.trim t.text = t.text := by
  obtain ⟨line, -, hline⟩ := mem_numberedFrom h
  rw [hline, Text.trim_trim]

theorem isExact_of_compileLines
    (hcompile : Library.compileLines mapping templateLines = .ok patterns)
    (htrim : ∀ t ∈ templateLines, Text.trim t.text = t.text)
    (hplain : ∀ t ∈ templateLines, ¬ HasPlaceholder t.text) :
    (∀ p ∈ patterns, p.IsExact) ∧
      patterns.map Pattern.render = templateLines.map TemplateLine.text := by
  have hall := List.forall₂_map_left_iff.mp (Except.mapM_eq_ok.mp hcompile)
  induction hall with
  | nil => exact ⟨fun _ hp => absurd hp List.not_mem_nil, rfl⟩
  | @cons t p templateLines patterns hfirst hrest ih =>
    rw [List.forall_mem_cons] at htrim hplain
    obtain ⟨hexact, hrender⟩ := Pattern.isExact_of_compile hfirst (htrim.1.symm ▸ hplain.1)
    obtain ⟨hexacts, hrenders⟩ := ih (Except.mapM_eq_ok.mpr (List.forall₂_map_left_iff.mpr hrest))
      htrim.2 hplain.2
    refine ⟨List.forall_mem_cons.mpr ⟨hexact, hexacts⟩, ?_⟩
    rw [List.map_cons, List.map_cons, hrender, htrim.1, hrenders]

/-! ## Audits -/

theorem isMatch_eq_decide {p : Pattern} (h : p.IsExact) (line : String) :
    p.isMatch line = decide (p.render = line) :=
  Bool.eq_iff_iff.mpr ((h line).trans (eq_comm.trans decide_eq_true_iff.symm))

theorem removeFirst?_isExact (h : ∀ p ∈ patterns, p.IsExact) (line : String) :
    (Audit.removeFirst? (·.isMatch line) patterns).map (List.map Pattern.render) =
      if line ∈ patterns.map Pattern.render then some ((patterns.map Pattern.render).erase line)
      else none := by
  induction patterns with
  | nil => rfl
  | cons p patterns ih =>
    rw [List.forall_mem_cons] at h
    rw [Audit.removeFirst?, isMatch_eq_decide h.1, List.map_cons]
    by_cases hline : p.render = line
    · simp [hline]
    · have hrest := ih h.2
      generalize Audit.removeFirst? (·.isMatch line) patterns = fewer at hrest ⊢
      by_cases hmem : line ∈ patterns.map Pattern.render
      · rw [if_pos hmem] at hrest
        obtain ⟨rest, rfl, herase⟩ := Option.map_eq_some_iff.mp hrest
        rw [if_neg (by simpa using hline), if_pos (List.mem_cons_of_mem _ hmem),
          List.erase_cons_tail (by simpa using hline), ← herase]
        rfl
      · rw [if_neg hmem] at hrest
        obtain rfl := Option.map_eq_none_iff.mp hrest
        rw [if_neg (by simpa using hline), if_neg (by simp [hmem, Ne.symm hline])]
        rfl

/-- Each line removes its own text, the first time it is still there. -/
theorem Remainder.of_isExact (h : ∀ p ∈ patterns, p.IsExact) (commands : List String) :
    (of patterns commands).free.map Pattern.render =
        (patterns.map Pattern.render).diff commands ∧
      (of patterns commands).lines = commands.diff (patterns.map Pattern.render) := by
  induction commands generalizing patterns with
  | nil => exact ⟨rfl, (List.nil_diff _).symm⟩
  | cons line rest ih =>
    have hremove := removeFirst?_isExact h line
    cases hfewer : Audit.removeFirst? (·.isMatch line) patterns with
    | some fewer =>
      rw [hfewer, Option.map_some] at hremove
      split at hremove
      · next hmem =>
        have hexact : ∀ p ∈ fewer, p.IsExact :=
          fun p hp => h p (Audit.removeFirst?_subset hfewer hp)
        rw [of_cons_some hfewer, List.diff_cons, List.cons_diff_of_mem hmem,
          ← Option.some.inj hremove]
        exact ih hexact
      · cases hremove
    | none =>
      rw [hfewer, Option.map_none] at hremove
      split at hremove
      · cases hremove
      · next hmem =>
        rw [of_cons_none hfewer, List.diff_cons, List.cons_diff_of_not_mem hmem,
          List.erase_of_not_mem hmem]
        exact (ih h).imp_right (congrArg (line :: ·))

/-- Against a template without placeholders an audit is the difference of the texts of the template
and the command lines, and the order of the lines matters only to the order of those that are
extra. -/
theorem findDeviations_plain (hplain : ∀ t ∈ parseTemplate text, ¬ HasPlaceholder t.text)
    (hcompile : Library.compileLines mapping (parseTemplate text) = .ok patterns)
    (lines : List String) :
    let texts := (parseTemplate text).map TemplateLine.text
    let commands := commandLines lines
    let report := findDeviations patterns [] lines
    report.missing = commands.foldl List.erase texts ∧
      (∀ s, report.missing.count s = texts.count s - commands.count s ∧
        report.extra.count s = commands.count s - texts.count s) ∧
      ∀ lines', lines'.Perm lines →
        (findDeviations patterns [] lines').missing = report.missing ∧
          (findDeviations patterns [] lines').extra.Perm report.extra := by
  obtain ⟨hexact, hrender⟩ := isExact_of_compileLines hcompile (fun _ => trim_text) hplain
  have hmissing : ∀ lines, (findDeviations patterns [] lines).missing =
      ((parseTemplate text).map TemplateLine.text).diff (commandLines lines) := fun lines => by
    rw [findDeviations_eq_ofLines, ← hrender]
    exact (Remainder.of_isExact hexact _).1
  have hextra : ∀ lines, (findDeviations patterns [] lines).extra =
      (commandLines lines).diff ((parseTemplate text).map TemplateLine.text) := fun lines => by
    rw [extra_findDeviations_nil, ← hrender]
    exact (Remainder.of_isExact hexact _).2
  dsimp only
  simp only [hmissing, hextra]
  refine ⟨List.diff_eq_foldl _ _, fun s => ⟨List.count_diff .., List.count_diff ..⟩, ?_⟩
  intro lines' hperm
  have hcommands := perm_commandLines hperm
  exact ⟨hcommands.diff_left _, hcommands.diff_right _⟩

/-- A template with a text twice and with braces that are not closed. -/
theorem findDeviations_plain_twice :
    (∀ t ∈ parseTemplate "set a.b\n# set c\nset a.b\n set d \x7b\x7bX\n",
      ¬ HasPlaceholder t.text) ∧
    ∃ patterns, Library.compileLines .empty
        (parseTemplate "set a.b\n# set c\nset a.b\n set d \x7b\x7bX\n") = .ok patterns ∧
      (findDeviations patterns [] ["set aXb", " set a.b", "set d \x7b\x7bX"]).missing =
        ["set a.b"] ∧
      (findDeviations patterns [] ["set d \x7b\x7bX", "set aXb", " set a.b"]).missing =
        ["set a.b"] := by
  have hplain : ∀ t ∈ parseTemplate "set a.b\n# set c\nset a.b\n set d \x7b\x7bX\n",
      ¬ HasPlaceholder t.text := by
    have hbrace : ∀ t ∈ parseTemplate "set a.b\n# set c\nset a.b\n set d \x7b\x7bX\n",
        '\x7d' ∉ t.text.toList := by decide +kernel
    exact fun t ht => not_hasPlaceholder_of_notMem (hbrace t ht)
  have hcompile : ((Library.compileLines .empty
      (parseTemplate "set a.b\n# set c\nset a.b\n set d \x7b\x7bX\n")).toOption.map
        (List.map Pattern.expression)).isSome = true := by
    decide +kernel
  cases hpatterns : Library.compileLines .empty
      (parseTemplate "set a.b\n# set c\nset a.b\n set d \x7b\x7bX\n") with
  | error cause =>
    rw [hpatterns] at hcompile
    cases hcompile
  | ok patterns =>
    obtain ⟨hmissing, -, horder⟩ := findDeviations_plain hplain hpatterns
      ["set aXb", " set a.b", "set d \x7b\x7bX"]
    have hreport : (findDeviations patterns [] ["set aXb", " set a.b", "set d \x7b\x7bX"]).missing =
        ["set a.b"] := hmissing.trans (by decide +kernel)
    have hperm : ["set d \x7b\x7bX", "set aXb", " set a.b"].Perm
        ["set aXb", " set a.b", "set d \x7b\x7bX"] := by decide
    exact ⟨hplain, patterns, rfl, hreport, (horder _ hperm).1.trans hreport⟩

end Conformance
