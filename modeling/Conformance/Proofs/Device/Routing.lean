import Conformance.Proofs.Refresh.Audit
import Conformance.Proofs.Refresh.History
import Conformance.Proofs.Text.CommandPattern
import Conformance.Proofs.Text.Words
import Mathlib.Logic.Relation

/-!
# Routing lines are command lines

Whether a device routes is told by the words of its lines as they are, and what is matched against the
templates are its command lines, trimmed and cut at the first blank. Both see the same lines: what is no
command line says nothing about routing.
-/
namespace Conformance

open Relation (EqvGen)

variable {line line' : String} {lines lines' : List String}

/-! ## Lines told by their words -/

theorem toList_ne_nil_of_mem_verb {verb : String} (h : verb ∈ commandVerbs) : verb.toList ≠ [] := by
  have hall : (commandVerbs.all fun verb => !verb.toList.isEmpty) = true := by decide
  simpa using List.all_eq_true.mp hall verb h

/-- A text that begins with no blank begins with a command if it has two words, the first of them a
verb. -/
theorem beginsCommand_iff {s : List Char} (hhead : ∀ c, s.head? = some c → Text.isBlank c = false) :
    BeginsCommand s ↔ ∃ verb ∈ commandVerbs, ∃ next rest,
      Text.wordsFrom [] s = verb.toList :: next :: rest := by
  constructor
  · rintro ⟨verb, hverb, blanks, c, rest, rfl, hne, hblanks, hc⟩
    have hverb' : Text.wordsFrom [] verb.toList = [verb.toList] :=
      Text.wordsFrom_of_forall (toList_ne_nil_of_mem_verb hverb) (isBlank_of_mem_verb hverb)
    have hsome : Text.wordsFrom [] (c :: rest) ≠ [] := by
      simp [Text.wordsFrom_eq_nil_iff, hc]
    obtain ⟨next, more, hmore⟩ := List.exists_cons_of_ne_nil hsome
    rw [Text.wordsFrom_run hne hblanks, hverb', hmore]
    exact ⟨verb, hverb, next, more, rfl⟩
  · rintro ⟨verb, hverb, next, rest, h⟩
    cases hfirst : s.head? with
    | none =>
      rw [List.head?_eq_none_iff.mp hfirst] at h
      cases h
    | some first =>
      rw [Text.wordsFrom_of_head? hfirst (hhead first hfirst)] at h
      obtain ⟨hcut, hrest⟩ := List.cons.inj h
      -- The words behind the verb begin where the blanks behind it end.
      have hblanks : (s.dropWhile (!Text.isBlank ·)).takeWhile Text.isBlank ≠ [] := by
        cases hdrop : s.dropWhile (!Text.isBlank ·) with
        | nil =>
          rw [hdrop] at hrest
          cases hrest
        | cons b after =>
          have hb : Text.isBlank b = true := by
            simpa using Text.head?_dropWhile (congrArg List.head? hdrop)
          rw [List.takeWhile_cons_of_pos hb]
          exact List.cons_ne_nil _ _
      cases hafter : (s.dropWhile (!Text.isBlank ·)).dropWhile Text.isBlank with
      | nil =>
        rw [← Text.wordsFrom_dropWhile, hafter] at hrest
        cases hrest
      | cons c after =>
        refine ⟨verb, hverb, _, c, after, ?_, hblanks, fun _ => List.mem_takeWhile_imp,
          Text.head?_dropWhile (congrArg List.head? hafter)⟩
        rw [← hcut, ← hafter, List.takeWhile_append_dropWhile, List.takeWhile_append_dropWhile]

theorem isCommandLine_trim_iff : isCommandLine (Text.trim line) = true ↔
    ∃ verb ∈ commandVerbs, ∃ next rest, Text.words line = verb :: next :: rest := by
  have hhead : ∀ c, (Text.trim line).toList.head? = some c → Text.isBlank c = false := by
    rw [Text.trim, String.toList_ofList]
    exact fun c => Text.not_head?_stripList
  rw [isCommandLine_iff, beginsCommand_iff hhead, ← Text.words_trim, Text.words]
  constructor
  · rintro ⟨verb, hverb, next, rest, h⟩
    exact ⟨verb, hverb, String.ofList next, rest.map String.ofList, by simp [h]⟩
  · rintro ⟨verb, hverb, next, rest, h⟩
    obtain ⟨first, more, hwords, rfl, hmore⟩ := List.map_eq_cons_iff.mp h
    obtain ⟨second, more, rfl, -, -⟩ := List.map_eq_cons_iff.mp hmore
    exact ⟨_, hverb, second, more, by rw [hwords, String.toList_ofList]⟩

theorem isRoutingLine_iff : isRoutingLine line = true ↔
    ∃ protocol ∈ routingProtocols, ∃ rest,
      Text.words line = "set" :: "protocols" :: protocol :: rest := by
  rw [isRoutingLine]
  constructor
  · intro h
    split at h
    · next protocol rest hwords => exact ⟨protocol, by simpa using h, rest, hwords⟩
    · cases h
  · rintro ⟨protocol, hprotocol, rest, hwords⟩
    rw [hwords]
    simpa using hprotocol

theorem Text.Respaced.isRoutingLine_eq (h : Text.Respaced line line') :
    isRoutingLine line' = isRoutingLine line := by
  rw [isRoutingLine, h.words_eq, isRoutingLine]

theorem isCommandLine_of_isRoutingLine (h : isRoutingLine line = true) :
    isCommandLine (Text.trim line) = true := by
  obtain ⟨protocol, -, rest, hwords⟩ := isRoutingLine_iff.mp h
  exact isCommandLine_trim_iff.mpr ⟨"set", by decide, "protocols", protocol :: rest, hwords⟩

/-- What a line says about routing, it says as a command line or not at all. -/
theorem isCommandLine_and_isRoutingLine (line : String) :
    (isCommandLine (Text.trim line) && isRoutingLine (Text.trim line)) = isRoutingLine line := by
  rw [(Text.Respaced.trim line).isRoutingLine_eq]
  cases h : isRoutingLine line with
  | false => rw [Bool.and_false]
  | true => rw [isCommandLine_of_isRoutingLine h]; rfl

/-! ## Configurations -/

theorem runsRouting_commandLines (lines : List String) :
    runsRouting (commandLines lines) = runsRouting lines := by
  rw [runsRouting, commandLines, List.any_filter, List.any_map, runsRouting]
  exact List.any_congr rfl fun line => isCommandLine_and_isRoutingLine line

theorem mem_commandLines_of_isRoutingLine (hline : line ∈ lines) (h : isRoutingLine line = true) :
    Text.trim line ∈ commandLines lines :=
  List.mem_filter.mpr ⟨List.mem_map_of_mem hline, isCommandLine_of_isRoutingLine h⟩

theorem runsRouting_iff :
    runsRouting lines = true ↔ ∃ line ∈ commandLines lines, isRoutingLine line = true := by
  rw [← runsRouting_commandLines, runsRouting, List.any_eq_true]

/-- One change of a configuration: its lines change places, the spacing of a line changes, or a line
that is no command line is removed. -/
inductive Reworked : List String → List String → Prop
  | perm {lines lines' : List String} : lines.Perm lines' → Reworked lines lines'
  | respace (before after : List String) {line line' : String} : Text.Respaced line line' →
    Reworked (before ++ line :: after) (before ++ line' :: after)
  | remove (before after : List String) {line : String} : isCommandLine (Text.trim line) = false →
    Reworked (before ++ line :: after) (before ++ after)

theorem Reworked.runsRouting_eq (h : Reworked lines lines') :
    runsRouting lines' = runsRouting lines := by
  cases h with
  | perm hperm => exact hperm.symm.any_eq
  | respace before after hline =>
    rw [runsRouting, List.any_append, List.any_cons, hline.isRoutingLine_eq, runsRouting,
      List.any_append, List.any_cons]
  | @remove before after line hline =>
    have hnot : isRoutingLine line = false := by
      rw [← isCommandLine_and_isRoutingLine, hline, Bool.false_and]
    rw [runsRouting, List.any_append, runsRouting, List.any_append, List.any_cons, hnot,
      Bool.false_or]

theorem runsRouting_of_eqvGen (h : EqvGen Reworked lines lines') :
    runsRouting lines' = runsRouting lines := by
  induction h with
  | rel _ _ h => exact h.runsRouting_eq
  | refl _ => rfl
  | symm _ _ _ ih => exact ih.symm
  | trans _ _ _ _ _ ihab ihbc => exact ihbc.trans ihab

theorem findDeviations_commandLines (mandatory optional : PatternSet) (lines : List String) :
    findDeviations mandatory optional (commandLines lines) =
      findDeviations mandatory optional lines := by
  have hagain : commandLines (commandLines lines) = commandLines lines :=
    commandLines_eq_self fun line => mem_commandLines
  rw [findDeviations, hagain, findDeviations]

namespace Auditor

theorem audit_commandLines (a : Auditor) (device : Device) (lines : List String) :
    a.audit device (commandLines lines) = a.audit device lines := by
  rw [audit_eq, audit_eq, augmentationFor, runsRouting_commandLines, ← augmentationFor]
  simp only [findDeviations_commandLines]

theorem augmentationFor_eq_routing {device : Device} :
    augmentationFor device lines = .routing ↔ runsRouting lines = true := by
  cases hrouting : runsRouting lines with
  | true => simp [augmentationFor, Augmentation.ofProfile, hrouting]
  | false => cases hfamily : device.family <;>
      simp [augmentationFor, Augmentation.ofProfile, hrouting, hfamily]

end Auditor

/-- Whether a configuration runs routing is told by its command lines: they alone say the same, and
so does the configuration with its lines in another order, with other spacing, and without lines that
are no command lines. The line that tells it is one that is audited, and an audit of the command lines
is the audit of the configuration, against the routing template if one of them is a routing line. -/
theorem routing_told_by_commandLines (lines : List String) :
    runsRouting (commandLines lines) = runsRouting lines ∧
    (∀ lines', EqvGen Reworked lines lines' → runsRouting lines' = runsRouting lines) ∧
    (∀ line ∈ lines, isRoutingLine line = true → Text.trim line ∈ commandLines lines) ∧
    ∀ (a : Auditor) (device : Device),
      a.audit device (commandLines lines) = a.audit device lines ∧
      ∀ augmentation report, a.audit device lines = .ok (augmentation, report) →
        (augmentation = .routing ↔ ∃ line ∈ commandLines lines, isRoutingLine line = true) := by
  refine ⟨runsRouting_commandLines lines, fun lines' => runsRouting_of_eqvGen,
    fun line => mem_commandLines_of_isRoutingLine, fun a device => ⟨a.audit_commandLines device lines,
      fun augmentation report haudit => ?_⟩⟩
  obtain ⟨compiled, -, hfound⟩ := Auditor.exists_of_audit_eq_ok haudit
  obtain ⟨rfl, -⟩ := Prod.mk.inj hfound
  rw [Auditor.augmentationFor_eq_routing, runsRouting_iff]

/-- A routing line with other blanks and a comment, and the routing line alone, with single spaces. -/
theorem routing_told_by_commandLines_blanks :
    let line := "\u00a0set  protocols\tospf3 area 0 "
    let comment := "# set protocols bgp"
    isRoutingLine line = true ∧ Text.trim line ∈ commandLines [comment, line] ∧
      EqvGen Reworked [comment, line] ["set protocols\tospf3 area 0"] ∧
      runsRouting ["set protocols\tospf3 area 0"] = runsRouting [comment, line] ∧
      ∃ report, Auditor.blank.audit ⟨"sw1", .els⟩ [comment, line] = .ok (.routing, report) ∧
        ∃ line' ∈ commandLines [comment, line], isRoutingLine line' = true := by
  intro line comment
  obtain ⟨-, hsame, haudited, haudit⟩ := routing_told_by_commandLines [comment, line]
  have hrouting : isRoutingLine line = true := by decide +kernel
  have htrimmed : Text.trim line = "set  protocols\tospf3 area 0" := by decide +kernel
  have htrim : Text.Respaced line "set  protocols\tospf3 area 0" := htrimmed ▸ .trim line
  have hrun : Text.Respaced "set  protocols\tospf3 area 0" "set protocols\tospf3 area 0" :=
    @Text.Respaced.run "set".toList "protocols\tospf3 area 0".toList [' ', ' '] [' '] (by decide)
      (by decide) (List.all_eq_true.mp (by decide)) (List.all_eq_true.mp (by decide))
  have hreworked : EqvGen Reworked [comment, line] ["set protocols\tospf3 area 0"] :=
    .trans _ _ _ (.rel _ _ (.remove [] [line] (by decide +kernel)))
      (.trans _ _ _ (.rel _ _ (.respace [] [] htrim)) (.rel _ _ (.respace [] [] hrun)))
  have hfound : Auditor.blank.audit ⟨"sw1", .els⟩ [comment, line] =
      .ok (.routing, .ofLines [] ["set  protocols\tospf3 area 0"]) := by decide +kernel
  exact ⟨hrouting, haudited line (by simp) hrouting, hreworked, hsame _ hreworked, _, hfound,
    ((haudit .blank ⟨"sw1", .els⟩).2 _ _ hfound).mp rfl⟩

end Conformance
