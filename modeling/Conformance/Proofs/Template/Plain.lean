import Conformance.Proofs.Template.Matching
import Conformance.Template.Library

/-!
# Lines without placeholders

A line in which no double brace is closed by another has no placeholders. Its pattern matches the text
of the line and nothing else, and is rendered as that text.
-/
namespace Conformance

variable {mapping : Mapping} {line text : String} {p : Pattern} {name : List Char}
  {ts : List Template.Token} {s : List Char}

/-- Two opening braces stand in the line, with two closing ones somewhere behind them. -/
def HasPlaceholder (line : String) : Prop :=
  ∃ before inside after : String,
    line = before ++ "\x7b\x7b" ++ inside ++ "\x7d\x7d" ++ after

theorem not_hasPlaceholder_of_notMem (h : '\x7d' ∉ line.toList) : ¬ HasPlaceholder line := by
  rintro ⟨before, inside, after, rfl⟩
  refine h ?_
  simp only [String.toList_append, List.mem_append]
  exact .inl (.inr List.mem_cons_self)

theorem Template.Cuts.exists_braced (h : Template.Cuts ts s) (hmem : .placeholder name ∈ ts) :
    ∃ before inside after,
      s = before ++ '\x7b' :: '\x7b' :: (inside ++ '\x7d' :: '\x7d' :: after) := by
  induction h with
  | nil => cases hmem
  | @literal ts t line _ _ ih =>
    obtain ⟨before, inside, after, rfl⟩ :=
      ih ((List.mem_cons.mp hmem).resolve_left fun heq => by cases heq)
    exact ⟨t ++ before, inside, after, by rw [List.append_assoc]⟩
  | @placeholder ts name' line _ ih =>
    exact ⟨[], name', line, rfl⟩

theorem hasPlaceholder_of_mem_tokens (h : .placeholder name ∈ Template.tokens line.toList) :
    HasPlaceholder line := by
  obtain ⟨before, inside, after, hline⟩ := (Template.cuts_tokens line.toList).exists_braced h
  refine ⟨.ofList before, .ofList inside, .ofList after, String.toList_inj.mp ?_⟩
  simp only [String.toList_append, String.toList_ofList, List.append_assoc]
  exact hline

namespace Pattern

theorem names_eq_nil (hcompile : compile mapping line = .ok p)
    (hline : ¬ HasPlaceholder (Text.trim line)) : p.names = [] := by
  refine List.filterMap_eq_nil_iff.mpr fun segment hsegment => ?_
  have htoken : segment.token ∈ Template.tokens (Text.trim line).toList :=
    (compile_ok hcompile).1.map_token ▸ List.mem_map_of_mem hsegment
  cases segment with
  | literal escaped => rfl
  | placeholder name fragment => exact (hline (hasPlaceholder_of_mem_tokens htoken)).elim

theorem render_eq_trim (hcompile : compile mapping line = .ok p) (hnames : p.names = []) :
    p.render = Text.trim line := by
  have hjoin : (String.join (p.segments.map Segment.rendered)).toList =
      (Text.trim line).toList := by
    rw [line_eq_of_names_nil hcompile hnames, String.toList_join, List.flatMap_map,
      List.flatMap_map]
    refine List.flatMap_congr fun segment hsegment => ?_
    cases segment with
    | literal escaped => exact String.toList_ofList
    | placeholder name fragment =>
      have hname : name ∈ p.names := List.mem_filterMap.mpr ⟨_, hsegment, rfl⟩
      rw [hnames] at hname
      cases hname
  have htrim := Text.trimSpaces_trim line
  rw [render, String.toList_inj.mp hjoin, htrim]

/-- The pattern matches the text that it is rendered as, and nothing else. -/
def IsExact (p : Pattern) : Prop :=
  ∀ s, p.isMatch s = true ↔ s = p.render

theorem isExact_of_compile (hcompile : compile mapping line = .ok p)
    (hline : ¬ HasPlaceholder (Text.trim line)) : p.IsExact ∧ p.render = Text.trim line := by
  have hnames := names_eq_nil hcompile hline
  have hrender := render_eq_trim hcompile hnames
  refine ⟨fun s => ?_, hrender⟩
  rw [hrender]
  exact isMatch_iff_eq_trim hcompile hnames s

end Pattern
end Conformance
