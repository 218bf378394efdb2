import Conformance.Proofs.Regex.Assembly
import Conformance.Proofs.Regex.Bounds
import Conformance.Proofs.Text.Command

/-!
# The pattern of command lines

Command lines are told by cutting them at the first blank. A pattern tells the same lines: a verb,
blanks, and a character that is none. Both come down to one way to write the line as three pieces.
-/
namespace Conformance

namespace Regex

variable {s t : List Char} {set : CharSet} {es : List Expr} {i j n : Nat}

/-! ## Pieces in front of what remains -/

theorem cons_isPrefix_drop {c : Char} :
    c :: t <+: s.drop i ↔ s[i]? = some c ∧ t <+: s.drop (i + 1) := by
  rw [← List.head?_drop, ← List.tail_drop]
  cases s.drop i with
  | nil => simp
  | cons d rest => simp [eq_comm]

theorem span_chars : Span s.toArray (.chars set) i j ↔
    ∃ c, s[i]? = some c ∧ set.contains c = true ∧ j = i + 1 := by
  constructor
  · intro h
    cases h with
    | chars hget hset => exact ⟨_, List.getElem?_toArray ▸ hget, hset, rfl⟩
  · rintro ⟨c, hget, hset, rfl⟩
    exact .chars (List.getElem?_toArray ▸ hget) hset

theorem span_literal : Span s.toArray (.literal t) i j ↔ t <+: s.drop i ∧ j = i + t.length := by
  rw [Expr.literal, span_ofSeq]
  induction t generalizing i with
  | nil => simp [SpanAll, eq_comm]
  | cons c t ih =>
    simp only [List.map_cons, SpanAll, span_only, List.getElem?_toArray, ih, cons_isPrefix_drop,
      List.length_cons]
    constructor
    · rintro ⟨k, ⟨hget, rfl⟩, hstarts, rfl⟩
      exact ⟨⟨hget, hstarts⟩, by omega⟩
    · rintro ⟨⟨hget, hstarts⟩, rfl⟩
      exact ⟨i + 1, ⟨hget, rfl⟩, hstarts, by omega⟩

theorem steps_chars : Steps (Span s.toArray (.chars set)) n i j ↔
    ∃ piece : List Char, piece <+: s.drop i ∧ piece.length = n ∧
      (∀ c ∈ piece, set.contains c = true) ∧ j = i + n := by
  induction n generalizing i with
  | zero =>
    constructor
    · rintro rfl
      exact ⟨[], List.nil_prefix, rfl, by simp, rfl⟩
    · rintro ⟨-, -, -, -, rfl⟩
      rfl
  | succ n ih =>
    simp only [Steps, span_chars, ih]
    constructor
    · rintro ⟨k, ⟨c, hget, hc, rfl⟩, piece, hstarts, hlength, hpiece, rfl⟩
      exact ⟨c :: piece, cons_isPrefix_drop.mpr ⟨hget, hstarts⟩, by rw [List.length_cons, hlength],
        List.forall_mem_cons.mpr ⟨hc, hpiece⟩, by omega⟩
    · rintro ⟨piece, hstarts, hlength, hpiece, rfl⟩
      obtain ⟨c, piece, rfl⟩ := List.exists_cons_of_length_eq_add_one hlength
      rw [List.forall_mem_cons] at hpiece
      obtain ⟨hget, hstarts⟩ := cons_isPrefix_drop.mp hstarts
      exact ⟨i + 1, ⟨c, hget, hpiece.1, rfl⟩, piece, hstarts, Nat.succ.inj hlength, hpiece.2,
        by omega⟩

theorem span_oneOrMore : Span s.toArray (.rep (.chars set) 1 none) i j ↔
    ∃ piece : List Char, piece <+: s.drop i ∧ piece ≠ [] ∧
      (∀ c ∈ piece, set.contains c = true) ∧ j = i + piece.length := by
  simp only [span_rep, steps_chars]
  constructor
  · rintro ⟨n, hn, -, piece, hstarts, rfl, hpiece, rfl⟩
    exact ⟨piece, hstarts, List.ne_nil_of_length_pos hn, hpiece, rfl⟩
  · rintro ⟨piece, hstarts, hne, hpiece, rfl⟩
    exact ⟨piece.length, List.length_pos_iff.mpr hne, by simp, piece, hstarts, rfl, hpiece, rfl⟩

theorem span_ofAlt {text : Array Char} :
    Span text (.ofAlt es) i j ↔ ∃ e ∈ es, Span text e i j := by
  induction es with
  | nil =>
    constructor
    · intro h
      cases h with
      | chars _ hset => cases hset
    · rintro ⟨e, he, -⟩
      cases he
  | cons e es ih =>
    cases es with
    | nil => simp [Expr.ofAlt]
    | cons e' es =>
      rw [List.exists_mem_cons_iff, ← ih]
      constructor
      · intro h
        cases h with
        | altFirst h => exact .inl h
        | altSecond h => exact .inr h
      · rintro (h | h)
        · exact .altFirst h
        · exact .altSecond h

end Regex

variable {s : List Char} {line : String}

/-- The line begins with a command verb, with blanks behind it and then a character that is none. -/
def BeginsCommand (s : List Char) : Prop :=
  ∃ verb ∈ commandVerbs, ∃ blanks c rest, s = verb.toList ++ (blanks ++ c :: rest) ∧
    blanks ≠ [] ∧ (∀ b ∈ blanks, Text.isBlank b = true) ∧ Text.isBlank c = false

/-! ## Cutting a line at the first blank -/

theorem isBlank_of_mem_verb {verb : String} (h : verb ∈ commandVerbs) :
    ∀ c ∈ verb.toList, Text.isBlank c = false := by
  have hall : (commandVerbs.all fun verb => verb.toList.all (!Text.isBlank ·)) = true := by decide
  simpa using List.all_eq_true.mp hall verb h

theorem isCommandLine_iff : isCommandLine line = true ↔ BeginsCommand line.toList := by
  unfold isCommandLine
  generalize line.toList = s
  constructor
  · intro h
    dsimp only at h
    split at h
    · cases h
    · next b rest hdrop =>
      rw [Bool.and_eq_true, List.contains_iff_mem, Bool.not_eq_true', List.all_eq_false] at h
      obtain ⟨hverb, d, hd, hdblank⟩ := h
      have hb : Text.isBlank b = true := by
        simpa using Text.head?_dropWhile (congrArg List.head? hdrop)
      -- The blanks end where the first other character behind them stands.
      cases hafter : rest.dropWhile Text.isBlank with
      | nil => exact absurd (List.dropWhile_eq_nil_iff.mp hafter d hd) hdblank
      | cons c after =>
        have hc : Text.isBlank c = false := Text.head?_dropWhile (congrArg List.head? hafter)
        refine ⟨_, hverb, b :: rest.takeWhile Text.isBlank, c, after, ?_, by simp, ?_, hc⟩
        · rw [String.toList_ofList, List.cons_append, ← hafter, List.takeWhile_append_dropWhile,
            ← hdrop, List.takeWhile_append_dropWhile]
        · exact List.forall_mem_cons.mpr ⟨hb, fun _ => List.mem_takeWhile_imp⟩
  · rintro ⟨verb, hverb, blanks, c, rest, rfl, hne, hblanks, hc⟩
    obtain ⟨b, blanks, rfl⟩ := List.exists_cons_of_ne_nil hne
    have hkept : ∀ d ∈ verb.toList, (!Text.isBlank d) = true := by
      simpa using isBlank_of_mem_verb hverb
    have hb : ¬ (!Text.isBlank b) = true := by simp [hblanks b List.mem_cons_self]
    have htake : ∀ t, (b :: t).takeWhile (!Text.isBlank ·) = [] :=
      fun t => List.takeWhile_cons_of_neg hb
    have hdrop : ∀ t, (b :: t).dropWhile (!Text.isBlank ·) = b :: t :=
      fun t => List.dropWhile_cons_of_neg hb
    dsimp only
    rw [List.cons_append, List.takeWhile_append_of_pos hkept, List.dropWhile_append_of_pos hkept,
      htake, hdrop, List.append_nil, String.ofList_toList]
    dsimp only
    rw [Bool.and_eq_true, List.contains_iff_mem, Bool.not_eq_true', List.all_eq_false]
    exact ⟨hverb, c, by simp, by simp [hc]⟩

/-! ## The pattern -/

def commandPattern : String :=
  "^(set|activate|deactivate|delete)\\s+\\S"

def commandExpr : Regex.Expr :=
  .ofSeq [.look .textStart, .ofAlt (commandVerbs.map fun verb => .literal verb.toList),
    .rep (.chars (.property .blank)) 1 none, .chars (.compl (.property .blank))]

theorem parse_commandPattern : Regex.parse commandPattern = .ok commandExpr := by
  decide +kernel

theorem span_commandExpr {i j : Nat} : Regex.Span s.toArray commandExpr i j ↔
    i = 0 ∧ ∃ verb ∈ commandVerbs, verb.toList <+: s ∧ ∃ blanks : List Char,
      blanks <+: s.drop verb.toList.length ∧ blanks ≠ [] ∧
      (∀ b ∈ blanks, Text.isBlank b = true) ∧ ∃ c, s[verb.toList.length + blanks.length]? = some c ∧
        Text.isBlank c = false ∧ j = verb.toList.length + blanks.length + 1 := by
  have hnot : ∀ c, Regex.CharSet.contains (.compl (.property .blank)) c = true ↔
      Text.isBlank c = false := by
    intro c
    show (!Text.isBlank c) = true ↔ _
    rw [Bool.not_eq_true']
  rw [commandExpr, Regex.span_ofSeq]
  simp only [Regex.SpanAll, Regex.span_ofAlt, Regex.span_oneOrMore, Regex.span_chars, hnot]
  constructor
  · rintro ⟨k, hstart, l, ⟨e, he, hliteral⟩, m, ⟨blanks, hblanks, hne, hall, rfl⟩, n,
      ⟨c, hget, hc, rfl⟩, rfl⟩
    obtain ⟨verb, hverb, rfl⟩ := List.mem_map.mp he
    cases hstart with
    | look hzero =>
      obtain rfl : i = 0 := beq_iff_eq.mp hzero
      obtain ⟨hstarts, rfl⟩ := Regex.span_literal.mp hliteral
      rw [Nat.zero_add] at hblanks hget ⊢
      exact ⟨rfl, verb, hverb, hstarts, blanks, hblanks, hne, hall, c, hget, hc, rfl⟩
  · rintro ⟨rfl, verb, hverb, hstarts, blanks, hblanks, hne, hall, c, hget, hc, rfl⟩
    refine ⟨0, .look (beq_self_eq_true _), verb.toList.length, ⟨_, List.mem_map_of_mem hverb, ?_⟩,
      _, ⟨blanks, hblanks, hne, hall, rfl⟩, _, ⟨c, hget, hc, rfl⟩, rfl⟩
    exact Regex.span_literal.mpr ⟨hstarts, (Nat.zero_add _).symm⟩

theorem isMatch_commandExpr : commandExpr.isMatch line = true ↔ BeginsCommand line.toList := by
  rw [Regex.Expr.isMatch_iff (Regex.isProper_of_parse parse_commandPattern)]
  simp only [span_commandExpr]
  generalize line.toList = s
  constructor
  · rintro ⟨i, j, -, -, verb, hverb, ⟨behind, rfl⟩, blanks, hblanks, hne, hall, c, hget, hc, -⟩
    rw [List.drop_left] at hblanks
    obtain ⟨after, rfl⟩ := hblanks
    have hafter : after.head? = some c := by
      rwa [List.getElem?_append_right (Nat.le_add_right _ _), Nat.add_sub_cancel_left,
        List.getElem?_append_right (Nat.le_refl _), Nat.sub_self, ← List.head?_eq_getElem?] at hget
    obtain ⟨rest, rfl⟩ := List.head?_eq_some_iff.mp hafter
    exact ⟨verb, hverb, blanks, c, rest, rfl, hne, hall, hc⟩
  · rintro ⟨verb, hverb, blanks, c, rest, rfl, hne, hall, hc⟩
    refine ⟨0, _, Nat.zero_le _, rfl, verb, hverb, List.prefix_append _ _, blanks, ?_, hne, hall, c,
      ?_, hc, rfl⟩
    · rw [List.drop_left]
      exact List.prefix_append _ _
    · simp

theorem isCommandLine_eq_isMatch (line : String) :
    isCommandLine line = commandExpr.isMatch line :=
  Bool.eq_iff_iff.mpr (isCommandLine_iff.trans isMatch_commandExpr.symm)

theorem ne_empty_of_isCommandLine (h : isCommandLine line = true) : line ≠ "" := by
  rintro rfl
  cases h

/-- A line is a command line if the pattern matches it. The command lines of a configuration are its
trimmed lines that the pattern matches, in their order; they are not empty, trimming them changes
nothing, and they are their own command lines. -/
theorem isCommandLine_iff_pattern :
    ∃ e, Regex.parse commandPattern = .ok e ∧ (∀ line, isCommandLine line = e.isMatch line) ∧
      ∀ lines, commandLines lines = (lines.map Text.trim).filter e.isMatch ∧
        commandLines (commandLines lines) = commandLines lines ∧
        ∀ line ∈ commandLines lines, line ≠ "" ∧ Text.trim line = line := by
  refine ⟨commandExpr, parse_commandPattern, isCommandLine_eq_isMatch, fun lines => ⟨?_, ?_, ?_⟩⟩
  · rw [commandLines, funext isCommandLine_eq_isMatch]
  · exact commandLines_eq_self fun line => mem_commandLines
  · intro line hline
    obtain ⟨htrim, hcommand⟩ := mem_commandLines hline
    exact ⟨ne_empty_of_isCommandLine hcommand, htrim⟩

/-- Of lines with tabs and other blanks, one whose first word only begins with a verb, and one with a
verb alone, two are command lines. -/
theorem isCommandLine_iff_pattern_blanks :
    let lines := ["\u00a0set\t\u2003x ", "settings x", " delete \t", "activate\u0085 #", " set#x y"]
    commandLines lines = ["set\t\u2003x", "activate\u0085 #"] ∧
      (∃ e, Regex.parse commandPattern = .ok e ∧
        (lines.map Text.trim).filter e.isMatch = ["set\t\u2003x", "activate\u0085 #"]) ∧
      "set\t\u2003x" ≠ "" ∧ Text.trim "set\t\u2003x" = "set\t\u2003x" := by
  intro lines
  obtain ⟨e, hparse, -, hlines⟩ := isCommandLine_iff_pattern
  obtain ⟨hfilter, -, hkept⟩ := hlines lines
  have hcommands : commandLines lines = ["set\t\u2003x", "activate\u0085 #"] := by decide +kernel
  refine ⟨hcommands, ⟨e, hparse, hfilter.symm.trans hcommands⟩, hkept _ ?_⟩
  rw [hcommands]
  exact List.mem_cons_self

end Conformance
