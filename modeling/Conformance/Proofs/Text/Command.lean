import Conformance.Deviation.Matching
import Conformance.Proofs.Text.Blank

/-!
# Command lines

Command lines are trimmed, so that to look for the command lines among command lines changes nothing.
-/
namespace Conformance

theorem mem_commandLines {line : String} {lines : List String} (h : line ∈ commandLines lines) :
    Text.trim line = line ∧ isCommandLine line = true := by
  obtain ⟨hmem, hcommand⟩ := List.mem_filter.mp h
  obtain ⟨raw, -, rfl⟩ := List.mem_map.mp hmem
  exact ⟨Text.trim_trim raw, hcommand⟩

theorem commandLines_eq_self {lines : List String}
    (h : ∀ line ∈ lines, Text.trim line = line ∧ isCommandLine line = true) :
    commandLines lines = lines := by
  have htrim : lines.map Text.trim = lines :=
    (List.map_congr_left fun line hline => (h line hline).1).trans (List.map_id _)
  rw [commandLines, htrim]
  exact List.filter_eq_self.mpr fun line hline => (h line hline).2

theorem commandLines_append (before after : List String) :
    commandLines (before ++ after) = commandLines before ++ commandLines after := by
  rw [commandLines, List.map_append, List.filter_append]
  rfl

theorem commandLines_cons (line : String) (lines : List String) :
    commandLines (line :: lines) =
      if isCommandLine (Text.trim line) then Text.trim line :: commandLines lines
      else commandLines lines := by
  rw [commandLines, List.map_cons, List.filter_cons]
  rfl

theorem perm_commandLines {lines lines' : List String} (h : lines.Perm lines') :
    (commandLines lines).Perm (commandLines lines') :=
  (h.map _).filter _

end Conformance
