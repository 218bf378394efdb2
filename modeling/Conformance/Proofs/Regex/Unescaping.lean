import Conformance.Regex.Notation
import Mathlib.Algebra.Ring.Parity
import Mathlib.Data.List.DropRight

/-!
# Unescaping

Backslashes are taken in pairs with the characters behind them, so that an odd number of backslashes
at the end of a text leaves the last one without its character. Where none is left, the text is
unescaped in the same way whatever stands behind it. Escaped text leaves none and is given back.
-/
namespace Conformance.Regex

variable {s t : List Char} {c : Char}

/-! ## Escapes that dangle -/

def trailingSlashes (s : List Char) : List Char :=
  s.rtakeWhile (· == '\\')

/-- An escape dangles if the last backslash of the text has no character behind it. -/
def Dangles (s : List Char) : Prop :=
  Odd (trailingSlashes s).length

instance : DecidablePred Dangles :=
  fun s => inferInstanceAs (Decidable (Odd (trailingSlashes s).length))

@[simp] theorem not_dangles_nil : ¬ Dangles [] := by
  decide

theorem dangles_concat : Dangles (s ++ [c]) ↔ c = '\\' ∧ ¬ Dangles s := by
  rw [Dangles, trailingSlashes, List.rtakeWhile_concat]
  split
  · next hc =>
    rw [List.length_append, List.length_singleton, Nat.odd_add_one]
    exact (and_iff_right (beq_iff_eq.mp hc)).symm
  · next hc => exact iff_of_false (by decide) fun h => hc (beq_iff_eq.mpr h.1)

/-- What dangles at the end is told without what stands in front of a text where nothing dangles. -/
theorem dangles_append (hs : ¬ Dangles s) : Dangles (s ++ t) ↔ Dangles t := by
  induction t using List.reverseRecOn with
  | nil =>
    rw [List.append_nil]
    exact iff_of_false hs not_dangles_nil
  | append_singleton t c ih => rw [← List.append_assoc, dangles_concat, dangles_concat, ih]

theorem not_dangles_pair (c : Char) : ¬ Dangles ['\\', c] := by
  have hslash : Dangles ['\\'] := by decide
  exact fun h => (dangles_concat (s := ['\\']).mp h).2 hslash

theorem not_dangles_singleton (hc : c ≠ '\\') : ¬ Dangles [c] :=
  fun h => hc (dangles_concat (s := []).mp h).1

theorem ne_slash_of_not_isMeta (hc : ¬ isMeta c = true) : c ≠ '\\' := by
  rintro rfl
  exact hc (by decide)

theorem not_dangles_escapeList (t : List Char) : ¬ Dangles (escapeList t) := by
  induction t with
  | nil => exact not_dangles_nil
  | cons c t ih =>
    rw [escapeList]
    split
    · exact (dangles_append (not_dangles_pair c)).not.mpr ih
    · next hc =>
      exact (dangles_append (not_dangles_singleton (ne_slash_of_not_isMeta hc))).not.mpr ih

/-! ## Unescaping text piece by piece -/

theorem unescapeList_cons (hc : c ≠ '\\') (s : List Char) :
    unescapeList (c :: s) = c :: unescapeList s := by
  rw [unescapeList]
  · exact fun heq _ => hc heq
  · exact fun _ _ heq _ => hc heq

theorem unescapeList_append (hs : ¬ Dangles s) (t : List Char) :
    unescapeList (s ++ t) = unescapeList s ++ unescapeList t := by
  fun_induction unescapeList s with
  | case1 => rfl
  | case2 => exact absurd (by decide) hs
  | case3 c s ih =>
    have hrest := (dangles_append (t := s) (not_dangles_pair c)).not.mp hs
    rw [List.cons_append, List.cons_append, unescapeList, ih hrest, List.cons_append]
  | case4 c s hlone hpair ih =>
    have hslash : c ≠ '\\' := by
      rintro rfl
      cases s with
      | nil => exact hlone rfl rfl
      | cons d s => exact hpair d s rfl rfl
    have hrest := (dangles_append (t := s) (not_dangles_singleton hslash)).not.mp hs
    rw [List.cons_append, unescapeList_cons hslash, ih hrest, List.cons_append]

/-- A text is unescaped apart from what stands behind it if and only if no escape dangles at its
end. -/
theorem forall_unescapeList_append_iff :
    (∀ t, unescapeList (s ++ t) = unescapeList s ++ unescapeList t) ↔ ¬ Dangles s := by
  constructor
  · intro happend hdangles
    rcases List.eq_nil_or_concat s with rfl | ⟨w, c, rfl⟩
    · exact not_dangles_nil hdangles
    · rw [List.concat_eq_append] at happend hdangles
      obtain ⟨rfl, hw⟩ := dangles_concat.mp hdangles
      have hslash := happend ['\\']
      rw [List.append_assoc, unescapeList_append hw, unescapeList_append hw,
        List.append_assoc] at hslash
      exact absurd (List.append_cancel_left hslash) (by decide)
  · exact unescapeList_append

theorem unescapeList_escapeList (t : List Char) : unescapeList (escapeList t) = t := by
  induction t with
  | nil => rfl
  | cons c t ih =>
    rw [escapeList]
    split
    · rw [unescapeList, ih]
    · next hc => rw [unescapeList_cons (ne_slash_of_not_isMeta hc), ih]

/-! ## Strings -/

theorem toList_escape (s : String) : (escape s).toList = escapeList s.toList :=
  String.toList_ofList

theorem unescape_append {s : String} (hs : ¬ Dangles s.toList) (t : String) :
    unescape (s ++ t) = unescape s ++ unescape t := by
  rw [unescape, String.toList_append, forall_unescapeList_append_iff.mpr hs, String.ofList_append]
  rfl

theorem unescape_escape (s : String) : unescape (escape s) = s := by
  rw [unescape, toList_escape, unescapeList_escapeList, String.ofList_toList]

end Conformance.Regex
