import Conformance.Proofs.Text.Blank
import Conformance.Proofs.Text.Bytes
import Conformance.Table.Record
import Mathlib.Data.List.Forall2

/-!
# What records say

The fields of a record are read as text and trimmed. Some blanks are cut off while the fields are
still bytes; as these are characters of their own, that changes neither which fields are text nor
what they say.
-/
namespace Conformance

namespace Text

variable {c : Char} {b : UInt8} {bytes : List UInt8}

/-! ## Blank bytes -/

theorem toBytes_singleton (c : Char) : toBytes (String.singleton c) = String.utf8EncodeChar c := by
  rw [toBytes_eq_flatMap, String.toList_singleton, List.flatMap_singleton]

/-- Such a byte at the end is the last character. -/
theorem ofBytes?_concat (hlt : b < 128) (hc : toBytes (String.singleton c) = [b]) :
    ofBytes? (bytes ++ [b]) = (ofBytes? bytes).map (· ++ String.singleton c) := by
  apply Option.ext
  intro whole
  rw [ofBytes?_eq_some, Option.map_eq_some_iff]
  constructor
  · intro h
    rcases List.eq_nil_or_concat whole.toList with hnil | ⟨before, last, hwhole⟩
    · rw [toBytes_eq_flatMap, hnil] at h
      simp at h
    · have hbytes : bytes ++ [b] =
          before.flatMap String.utf8EncodeChar ++ String.utf8EncodeChar last := by
        rw [h, toBytes_eq_flatMap, hwhole, List.concat_eq_append, List.flatMap_append,
          List.flatMap_singleton]
      have hmem : b ∈ String.utf8EncodeChar last := by
        have hlast := congrArg List.getLast? hbytes
        rw [List.getLast?_concat, List.getLast?_append_of_ne_nil _ String.utf8EncodeChar_ne_nil]
          at hlast
        exact List.mem_of_getLast? hlast.symm
      rw [utf8EncodeChar_of_lt hmem hlt] at hbytes
      have hsame : String.singleton c = String.singleton last := by
        apply toBytes_injective
        rw [hc, toBytes_singleton, utf8EncodeChar_of_lt hmem hlt]
      refine ⟨String.ofList before, ?_, ?_⟩
      · rw [ofBytes?_eq_some, toBytes_eq_flatMap, String.toList_ofList]
        exact List.append_cancel_right hbytes
      · apply String.toList_injective
        rw [hsame, String.toList_append, String.toList_ofList, String.toList_singleton, hwhole,
          List.concat_eq_append]
  · rintro ⟨before, hbefore, rfl⟩
    rw [toBytes_append, hc, ofBytes?_eq_some.mp hbefore]

theorem isBlankByte_cases (h : isBlankByte b = true) :
    b < 128 ∧ ∃ c, isBlank c = true ∧ toBytes (String.singleton c) = [b] := by
  simp only [isBlankByte, Bool.or_eq_true, beq_iff_eq] at h
  simp only [toBytes_singleton]
  rcases h with (((rfl | rfl) | rfl) | rfl) | rfl
  · exact ⟨by decide, ' ', by decide, by decide⟩
  · exact ⟨by decide, '\t', by decide, by decide⟩
  · exact ⟨by decide, '\n', by decide, by decide⟩
  · exact ⟨by decide, '\x0c', by decide, by decide⟩
  · exact ⟨by decide, '\r', by decide, by decide⟩

/-! ## Trimming bytes -/

def trimmed? (bytes : List UInt8) : Option String :=
  (ofBytes? bytes).map trim

theorem trimmed?_cons (h : isBlankByte b = true) (bytes : List UInt8) :
    trimmed? (b :: bytes) = trimmed? bytes := by
  obtain ⟨-, c, hc, hbytes⟩ := isBlankByte_cases h
  rw [trimmed?, ← List.singleton_append, ← hbytes, ofBytes?_append, Option.map_map, trimmed?]
  exact congrArg (Option.map · (ofBytes? bytes)) (funext (trim_cons hc))

theorem trimmed?_concat (h : isBlankByte b = true) (bytes : List UInt8) :
    trimmed? (bytes ++ [b]) = trimmed? bytes := by
  obtain ⟨hlt, c, hc, hbytes⟩ := isBlankByte_cases h
  rw [trimmed?, ofBytes?_concat hlt hbytes, Option.map_map, trimmed?]
  exact congrArg (Option.map · (ofBytes? bytes)) (funext (trim_push hc))

theorem trimmed?_dropWhile (bytes : List UInt8) :
    trimmed? (bytes.dropWhile isBlankByte) = trimmed? bytes := by
  induction bytes with
  | nil => rfl
  | cons b bytes ih =>
    rw [List.dropWhile_cons]
    split
    · next hb => rw [ih, trimmed?_cons hb]
    · rfl

theorem trimmed?_reverse_dropWhile (bytes : List UInt8) :
    trimmed? (bytes.dropWhile isBlankByte).reverse = trimmed? bytes.reverse := by
  induction bytes with
  | nil => rfl
  | cons b bytes ih =>
    rw [List.dropWhile_cons]
    split
    · next hb => rw [ih, List.reverse_cons, trimmed?_concat hb]
    · rfl

/-- What is cut off before the bytes are read would be cut off afterwards. -/
theorem trimmed?_trimBytes (bytes : List UInt8) : trimmed? (trimBytes bytes) = trimmed? bytes := by
  rw [trimBytes, trimmed?_reverse_dropWhile, List.reverse_reverse, trimmed?_dropWhile]

end Text

namespace Table

/-- The record says these cells: each field is a text, and its cell is this text, trimmed. -/
def Record.Says (r : Record) (cells : List String) : Prop :=
  List.Forall₂ (fun field cell => ∃ s, field = Text.toBytes s ∧ Text.trim s = cell) r.fields cells

theorem says_iff {r : Record} {cells : List String} :
    r.toRow.cells = some cells ↔ r.Says cells := by
  rw [Record.Says, Record.toRow]
  dsimp only
  generalize r.fields = fields
  induction fields generalizing cells with
  | nil =>
    rw [List.forall₂_nil_left_iff]
    exact Option.some_inj.trans eq_comm
  | cons field fields ih =>
    have hfield : ∀ cell, (∃ s, field = Text.toBytes s ∧ Text.trim s = cell) ↔
        Text.trimmed? (Text.trimBytes field) = some cell := by
      intro cell
      rw [Text.trimmed?_trimBytes, Text.trimmed?, Option.map_eq_some_iff]
      simp only [Text.ofBytes?_eq_some]
    rw [List.forall₂_cons_left_iff, List.mapM_cons]
    simp only [hfield, ← ih, Text.trimmed?]
    cases Text.ofBytes? (Text.trimBytes field) with
    | none => simp
    | some s =>
      cases fields.mapM fun field => Text.ofBytes? (Text.trimBytes field) with
      | none => simp
      | some texts => simp [eq_comm]

end Table
end Conformance
