import Conformance.Proofs.Text.Bytes
import Mathlib.Data.String.Basic
import Mathlib.Tactic.Common

/-!
# The order of texts

Texts are in the same order by their bytes as by their characters: of two characters the greater one
has the greater bytes, already where these first differ.
-/
namespace Conformance.Text

variable {c d : Char} {s t : String} {m n : Nat}

theorem ofNat_cons_lt {x y : List UInt8} (hm : m < 256) (hn : n < 256) :
    UInt8.ofNat m :: x < UInt8.ofNat n :: y ↔ m < n ∨ m = n ∧ x < y := by
  rw [List.cons_lt_cons_iff, UInt8.lt_iff_toNat_lt, ← UInt8.toNat_inj, UInt8.toNat_ofNat',
    UInt8.toNat_ofNat', Nat.mod_eq_of_lt hm, Nat.mod_eq_of_lt hn]

theorem toNat_lt (c : Char) : c.val.toNat < 0x110000 := by
  rcases c.valid with h | h
  · exact h.trans (by decide)
  · exact h.2

/-- What follows the bytes of two different characters does not matter for their order. -/
theorem utf8EncodeChar_append_lt (h : c < d) (x y : List UInt8) :
    String.utf8EncodeChar c ++ x < String.utf8EncodeChar d ++ y := by
  have hlt : c.val.toNat < d.val.toNat := h
  have hbound := toNat_lt d
  unfold String.utf8EncodeChar
  dsimp only
  generalize c.val.toNat = m at hlt ⊢
  generalize d.val.toNat = n at hlt hbound ⊢
  -- The bytes are digits to the base 64; a digit decides where those in front of it are the same.
  have hlast : m / 64 < n / 64 ∨ m / 64 = n / 64 ∧ m % 64 < n % 64 := by omega
  have hthird : m / 4096 < n / 4096 ∨ m / 4096 = n / 4096 ∧
      (m / 64 % 64 < n / 64 % 64 ∨ m / 64 = n / 64) := by omega
  have hsecond : m / 262144 < n / 262144 ∨ m / 262144 = n / 262144 ∧
      (m / 4096 % 64 < n / 4096 % 64 ∨ m / 4096 = n / 4096) := by omega
  have hm : m / 262144 % 8 = m / 262144 := Nat.mod_eq_of_lt (by omega)
  have hn : n / 262144 % 8 = n / 262144 := Nat.mod_eq_of_lt (by omega)
  split_ifs
  all_goals
    simp (disch := omega) only [hm, hn, List.cons_append, List.nil_append, ofNat_cons_lt]
    omega

theorem flatMap_utf8EncodeChar_lt {s t : List Char} (h : s < t) :
    s.flatMap String.utf8EncodeChar < t.flatMap String.utf8EncodeChar := by
  induction s generalizing t with
  | nil =>
    cases t with
    | nil => exact absurd h (List.lt_irrefl [])
    | cons d t =>
      obtain ⟨b, bs, hd⟩ := List.exists_cons_of_ne_nil (String.utf8EncodeChar_ne_nil (c := d))
      rw [List.flatMap_nil, List.flatMap_cons, hd]
      exact List.nil_lt_cons b _
  | cons c s ih =>
    cases t with
    | nil => cases h
    | cons d t =>
      rw [List.flatMap_cons, List.flatMap_cons]
      rcases List.cons_lt_cons_iff.mp h with hlt | ⟨rfl, hlt⟩
      · exact utf8EncodeChar_append_lt hlt _ _
      · exact List.append_left_lt (ih hlt)

theorem toBytes_lt_of_lt (h : s < t) : toBytes s < toBytes t := by
  rw [toBytes_eq_flatMap, toBytes_eq_flatMap]
  exact flatMap_utf8EncodeChar_lt (String.lt_iff_toList_lt.mp h)

theorem toBytes_lt_iff : toBytes s < toBytes t ↔ s < t := by
  constructor
  · intro h
    rcases lt_trichotomy s t with hlt | rfl | hgt
    · exact hlt
    · exact absurd h (List.lt_irrefl _)
    · exact absurd h (List.lt_asymm (toBytes_lt_of_lt hgt))
  · exact toBytes_lt_of_lt

theorem toBytes_le_iff : toBytes s ≤ toBytes t ↔ s ≤ t := by
  rw [← List.not_lt, toBytes_lt_iff, not_lt]

end Conformance.Text
