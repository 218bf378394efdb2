import Conformance.Text.Bytes
import Mathlib.Data.List.Basic

/-!
# Text in bytes

A text is found again in its bytes, and the bytes of one text begin those of another only where the
text itself begins the other. Bytes below 128 are characters of their own.
-/
namespace Conformance.Text

variable {bytes extra : List UInt8} {b : UInt8} {s whole : String} {c : Char}

/-! ## Bytes that are characters -/

theorem utf8EncodeChar_of_toNat_lt (h : c.toNat < 128) :
    String.utf8EncodeChar c = [UInt8.ofNat c.toNat] := by
  have hval : c.val.toNat ≤ 0x7F := Nat.le_of_lt_succ h
  simp only [String.utf8EncodeChar, if_pos hval]
  rfl

theorem ofNat_not_lt {n k : Nat} (hk : 128 ≤ k) (hn : n + k < 256) :
    ¬ UInt8.ofNat (n + k) < 128 := by
  intro h
  rw [UInt8.lt_iff_toNat_lt, UInt8.toNat_ofNat', Nat.mod_eq_of_lt hn] at h
  have hbound : (128 : UInt8).toNat = 128 := rfl
  omega

theorem not_lt_of_mem_utf8EncodeChar (h : ¬ c.toNat < 128) (hb : b ∈ String.utf8EncodeChar c) :
    ¬ b < 128 := by
  have hval : ¬ c.val.toNat ≤ 0x7F := fun hle => h (Nat.lt_succ_of_le hle)
  simp only [String.utf8EncodeChar, if_neg hval] at hb
  split at hb
  · simp only [List.mem_cons, List.not_mem_nil, or_false] at hb
    rcases hb with rfl | rfl <;> exact ofNat_not_lt (by decide) (by omega)
  · split at hb
    · simp only [List.mem_cons, List.not_mem_nil, or_false] at hb
      rcases hb with rfl | rfl | rfl <;> exact ofNat_not_lt (by decide) (by omega)
    · simp only [List.mem_cons, List.not_mem_nil, or_false] at hb
      rcases hb with rfl | rfl | rfl | rfl <;> exact ofNat_not_lt (by decide) (by omega)

theorem utf8EncodeChar_of_lt (hb : b ∈ String.utf8EncodeChar c) (hlt : b < 128) :
    String.utf8EncodeChar c = [b] := by
  by_cases hc : c.toNat < 128
  · rw [utf8EncodeChar_of_toNat_lt hc] at hb ⊢
    rw [List.mem_singleton.mp hb]
  · exact absurd hlt (not_lt_of_mem_utf8EncodeChar hc hb)

/-! ## Texts -/

theorem toList_loop (bs : ByteArray) (i : Nat) (sofar : List UInt8) :
    ByteArray.toList.loop bs i sofar = sofar.reverse ++ bs.data.toList.drop i := by
  fun_induction ByteArray.toList.loop bs i sofar with
  | case1 i sofar h ih =>
    have hget : bs.get! i = bs.data.toList.get ⟨i, h⟩ := by
      simp only [ByteArray.get!]
      exact getElem!_pos bs.data i h
    rw [ih, hget, List.drop_eq_getElem_cons h]
    simp
  | case2 i sofar h =>
    rw [List.drop_eq_nil_of_le (Nat.not_lt.mp h), List.append_nil]

theorem mk_toBytes (s : String) : ByteArray.mk (toBytes s).toArray = s.toByteArray := by
  rw [toBytes, ByteArray.toList, toList_loop]
  rfl

theorem toBytes_eq_flatMap (s : String) : toBytes s = s.toList.flatMap String.utf8EncodeChar := by
  have hencode : s.toByteArray = s.toList.utf8Encode := String.utf8Encode_toList.symm
  have hdata : (toBytes s).toArray = s.toList.utf8Encode.data := by
    rw [← hencode, ← mk_toBytes]
  have hlist := congrArg Array.toList hdata
  simpa [List.utf8Encode] using hlist

theorem utf8ByteSize_eq_length (h : ∀ c ∈ s.toList, c.toNat < 128) :
    s.utf8ByteSize = s.toList.length := by
  have hbytes : (toBytes s).length = s.utf8ByteSize := by
    rw [← String.size_toByteArray, ← mk_toBytes]
    rfl
  have hone : ∀ c ∈ s.toList, (String.utf8EncodeChar c).length = 1 := fun c hc => by
    rw [utf8EncodeChar_of_toNat_lt (h c hc), List.length_singleton]
  rw [← hbytes, toBytes_eq_flatMap, List.length_flatMap, List.map_congr_left hone]
  simp

theorem toBytes_append (s s' : String) : toBytes (s ++ s') = toBytes s ++ toBytes s' := by
  simp [toBytes_eq_flatMap]

theorem ofBytes?_toBytes (s : String) : ofBytes? (toBytes s) = some s := by
  rw [ofBytes?, mk_toBytes, String.fromUTF8?, dif_pos s.isValidUTF8]
  rfl

theorem ofBytes?_eq_some : ofBytes? bytes = some s ↔ bytes = toBytes s := by
  constructor
  · intro h
    rw [ofBytes?, String.fromUTF8?] at h
    split at h
    · obtain rfl := Option.some.inj h
      have hmk := mk_toBytes (String.fromUTF8 (ByteArray.mk bytes.toArray) ‹_›)
      have hdata := congrArg (fun b => b.data.toList) hmk
      simpa [String.fromUTF8] using hdata.symm
    · cases h
  · rintro rfl
    exact ofBytes?_toBytes s

theorem toBytes_injective {s' : String} (h : toBytes s = toBytes s') : s = s' := by
  have hread := ofBytes?_toBytes s
  rw [h, ofBytes?_toBytes] at hread
  exact (Option.some.inj hread).symm

/-- No character's bytes begin those of another. -/
theorem toList_isPrefix (h : toBytes s <+: toBytes whole) : s.toList <+: whole.toList := by
  obtain ⟨rest, hrest⟩ := h
  refine List.isPrefix_of_utf8Encode_append_eq_utf8Encode (ByteArray.mk rest.toArray) ?_
  rw [String.utf8Encode_toList, String.utf8Encode_toList, ← mk_toBytes, ← mk_toBytes, ← hrest]
  ext1
  simp

theorem ofBytes?_append : ofBytes? (toBytes s ++ extra) = (ofBytes? extra).map (s ++ ·) := by
  apply Option.ext
  intro whole
  rw [ofBytes?_eq_some, Option.map_eq_some_iff]
  constructor
  · intro h
    obtain ⟨rest, hrest⟩ := toList_isPrefix (h ▸ List.prefix_append (toBytes s) extra)
    have hwhole : s ++ String.ofList rest = whole := by
      apply String.toList_injective
      simpa using hrest
    refine ⟨String.ofList rest, ?_, hwhole⟩
    rw [← hwhole, toBytes_append] at h
    exact ofBytes?_eq_some.mpr (List.append_cancel_left h)
  · rintro ⟨rest, hrest, rfl⟩
    rw [toBytes_append, ofBytes?_eq_some.mp hrest]

end Conformance.Text
