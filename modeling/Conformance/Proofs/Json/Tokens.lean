import Conformance.Json.Printer
import Conformance.Json.Token
import Conformance.Proofs.Text.Bytes

/-!
# Tokens of written JSON

Cutting a written value gives back the tokens it was laid out from. A number or a word only ends
where the next character cannot belong to it, so what a part is read as depends on what follows.
-/
namespace Conformance.Json

variable {place next : Place} {b : UInt8} {c : Char} {cs : List Char} {bytes : List UInt8}
  {ts : List Token} {t : Token}

/-! ## Single steps -/

theorem tokensFrom_cons (h : readByte place b = some (ts, next)) :
    tokensFrom place (b :: bytes) = (tokensFrom next bytes).map (ts ++ ·) := by
  simp only [tokensFrom, h, Option.bind_eq_bind, Option.bind_some]
  cases tokensFrom next bytes <;> rfl

theorem tokensFrom_cons_of_nil (h : readByte place b = some ([], next)) :
    tokensFrom place (b :: bytes) = tokensFrom next bytes := by
  rw [tokensFrom_cons h]
  simp

/-! ## Bytes of characters -/

def bytesOf (cs : List Char) : List UInt8 :=
  cs.flatMap String.utf8EncodeChar

theorem toBytes_ofList (cs : List Char) : Text.toBytes (String.ofList cs) = bytesOf cs := by
  rw [Text.toBytes_eq_flatMap, String.toList_ofList, bytesOf]

@[simp] theorem bytesOf_nil : bytesOf [] = [] := rfl

theorem bytesOf_cons (c : Char) (cs : List Char) :
    bytesOf (c :: cs) = String.utf8EncodeChar c ++ bytesOf cs :=
  List.flatMap_cons

theorem bytesOf_append (cs cs' : List Char) : bytesOf (cs ++ cs') = bytesOf cs ++ bytesOf cs' :=
  List.flatMap_append

theorem readByte_of_toNat_lt (h : c.toNat < 128) :
    readByte place (UInt8.ofNat c.toNat) = read place c := by
  have htoNat : (UInt8.ofNat c.toNat).toNat = c.toNat := by
    rw [UInt8.toNat_ofNat', Nat.mod_eq_of_lt (Nat.lt_trans h (by decide))]
  have hlt : UInt8.ofNat c.toNat < 0x80 := by
    rw [UInt8.lt_iff_toNat_lt, htoNat]
    exact h
  unfold readByte
  rw [if_pos hlt, htoNat, Char.ofNat_toNat]

theorem tokensFrom_char (hc : c.toNat < 128) (h : read place c = some (ts, next)) :
    tokensFrom place (bytesOf (c :: cs) ++ bytes) =
      (tokensFrom next (bytesOf cs ++ bytes)).map (ts ++ ·) := by
  rw [bytesOf_cons, Text.utf8EncodeChar_of_toNat_lt hc, List.append_assoc, List.singleton_append]
  exact tokensFrom_cons ((readByte_of_toNat_lt hc).trans h)

theorem tokensFrom_char_of_nil (hc : c.toNat < 128) (h : read place c = some ([], next)) :
    tokensFrom place (bytesOf (c :: cs) ++ bytes) = tokensFrom next (bytesOf cs ++ bytes) := by
  rw [tokensFrom_char hc h]
  simp

theorem tokens_mark (hc : c.toNat < 128) (h : read .between c = some ([t], .between)) :
    tokens (bytesOf (c :: cs) ++ bytes) = (tokens (bytesOf cs ++ bytes)).map (t :: ·) :=
  tokensFrom_char hc h

theorem tokens_newLine (depth : Nat) (cs : List Char) (bytes : List UInt8) :
    tokens (bytesOf (newLine depth ++ cs) ++ bytes) = tokens (bytesOf cs ++ bytes) := by
  have hspaces : ∀ n, tokens (bytesOf (List.replicate n ' ' ++ cs) ++ bytes) =
      tokens (bytesOf cs ++ bytes) := by
    intro n
    induction n with
    | zero => rfl
    | succ n ih =>
      rw [List.replicate_succ, List.cons_append]
      exact (tokensFrom_char_of_nil (by decide) rfl).trans ih
  rw [newLine, List.cons_append]
  exact (tokensFrom_char_of_nil (by decide) rfl).trans (hspaces _)

/-! ## Strings -/

theorem hexDigit?_hexDigit : ∀ n < 16, Unicode.hexDigit? (hexDigit n) = some n := by
  decide

theorem toNat_hexDigit_lt : ∀ n < 16, (hexDigit n).toNat < 128 := by
  decide

def IsCoded (c : Char) : Prop :=
  c.toNat < 0x20 ∧ c ∉ ['\x08', '\x0C', '\n', '\r', '\t']

instance : DecidablePred IsCoded :=
  fun c => inferInstanceAs (Decidable (c.toNat < 0x20 ∧ c ∉ ['\x08', '\x0C', '\n', '\r', '\t']))

def unitsOf (c : Char) : List Unit :=
  if IsCoded c then [.code c.toNat]
  else if c.toNat < 128 then [.char c]
  else (String.utf8EncodeChar c).map .byte

theorem tokensFrom_code (sofar : List Unit) {n : Nat} (h : n < 0x20) (bytes : List UInt8) :
    tokensFrom (.string sofar)
        (bytesOf ['\\', 'u', '0', '0', hexDigit (n / 16), hexDigit (n % 16)] ++ bytes) =
      tokensFrom (.string (.code n :: sofar)) bytes := by
  have hhigh : read (.code sofar 2 0) (hexDigit (n / 16)) = some ([], .code sofar 1 (n / 16)) := by
    simp [read, hexDigit?_hexDigit (n / 16) (by omega)]
  have hlow : read (.code sofar 1 (n / 16)) (hexDigit (n % 16)) =
      some ([], .string (.code n :: sofar)) := by
    have hn : 16 * (n / 16) + n % 16 = n := Nat.div_add_mod n 16
    simp [read, hexDigit?_hexDigit (n % 16) (by omega), hn]
  calc _ = tokensFrom (.code sofar 2 0) (bytesOf [hexDigit (n / 16), hexDigit (n % 16)] ++ bytes) := by
        iterate 4 rw [tokensFrom_char_of_nil (by decide) rfl]
        rfl
    _ = tokensFrom (.string (.code n :: sofar)) (bytesOf [] ++ bytes) := by
        rw [tokensFrom_char_of_nil (toNat_hexDigit_lt _ (by omega)) hhigh,
          tokensFrom_char_of_nil (toNat_hexDigit_lt _ (by omega)) hlow]

/-- The bytes of a longer character go into a string one by one. -/
theorem tokensFrom_bytes (sofar : List Unit) {bs : List UInt8} (h : ∀ b ∈ bs, ¬ b < 128)
    (bytes : List UInt8) :
    tokensFrom (.string sofar) (bs ++ bytes) =
      tokensFrom (.string ((bs.map Unit.byte).reverse ++ sofar)) bytes := by
  induction bs generalizing sofar with
  | nil => rfl
  | cons b bs ih =>
    rw [List.forall_mem_cons] at h
    have hread : readByte (.string sofar) b = some ([], .string (.byte b :: sofar)) := if_neg h.1
    rw [List.cons_append, tokensFrom_cons_of_nil hread, ih _ h.2]
    simp

theorem tokensFrom_escapeChar (sofar : List Unit) (c : Char) (bytes : List UInt8) :
    tokensFrom (.string sofar) (bytesOf (escapeChar c) ++ bytes) =
      tokensFrom (.string ((unitsOf c).reverse ++ sofar)) bytes := by
  unfold escapeChar
  split
  all_goals try
    exact (tokensFrom_char_of_nil (by decide) rfl).trans (tokensFrom_char_of_nil (by decide) rfl)
  next hquote hbackslash hb hf hn hr ht =>
    split
    · next hlt =>
      have hcoded : unitsOf c = [.code c.toNat] := if_pos ⟨hlt, by
        simp only [List.mem_cons, List.not_mem_nil, or_false, not_or]
        exact ⟨hb, hf, hn, hr, ht⟩⟩
      rw [hcoded]
      exact tokensFrom_code sofar hlt bytes
    · next hge =>
      rw [unitsOf, if_neg fun h => hge h.1]
      by_cases hc : c.toNat < 128
      · have hquote' : (c == '"') = false := beq_eq_false_iff_ne.mpr hquote
        have hbackslash' : (c == '\\') = false := beq_eq_false_iff_ne.mpr hbackslash
        rw [if_pos hc]
        refine tokensFrom_char_of_nil hc ?_
        simp only [read, hquote', hbackslash', if_neg hge, Bool.false_eq_true, if_false]
        rfl
      · rw [if_neg hc, bytesOf, List.flatMap_singleton]
        exact tokensFrom_bytes sofar (fun b => Text.not_lt_of_mem_utf8EncodeChar hc) bytes

theorem joinUnits_code {n : Nat} (h : n < 0x20) (us : List Unit) :
    joinUnits (.code n :: us) =
      (joinUnits us).map (String.utf8EncodeChar (Char.ofNat n) ++ ·) := by
  have hwhole : ¬(0xD800 ≤ n ∧ n < 0xE000) := by omega
  cases us with
  | nil => simp only [joinUnits, if_neg hwhole]
  | cons u us =>
    cases u with
    | char c => simp only [joinUnits, if_neg hwhole]
    | byte b => simp only [joinUnits, if_neg hwhole]
    | code m => rw [joinUnits, if_neg (by omega), if_neg hwhole]

theorem joinUnits_bytes (bs : List UInt8) (us : List Unit) :
    joinUnits (bs.map Unit.byte ++ us) = (joinUnits us).map (bs ++ ·) := by
  induction bs with
  | nil => simp
  | cons b bs ih =>
    rw [List.map_cons, List.cons_append, joinUnits, ih, Option.map_map]
    rfl

theorem joinUnits_unitsOf (cs : List Char) : joinUnits (cs.flatMap unitsOf) = some (bytesOf cs) := by
  induction cs with
  | nil => rfl
  | cons c cs ih =>
    rw [List.flatMap_cons, bytesOf_cons, unitsOf]
    split
    · next hcoded =>
      rw [List.singleton_append, joinUnits_code hcoded.1, ih, Option.map_some, Char.ofNat_toNat]
    · split
      · rw [List.singleton_append, joinUnits, ih, Option.map_some]
      · rw [joinUnits_bytes, ih, Option.map_some]

theorem tokensFrom_escaped (sofar : List Unit) (cs : List Char) (bytes : List UInt8) :
    tokensFrom (.string sofar) (bytesOf (cs.flatMap escapeChar) ++ bytes) =
      tokensFrom (.string ((cs.flatMap unitsOf).reverse ++ sofar)) bytes := by
  induction cs generalizing sofar with
  | nil => rfl
  | cons c cs ih =>
    rw [List.flatMap_cons, bytesOf_append, List.append_assoc, tokensFrom_escapeChar, ih]
    simp

theorem tokens_quoted (text : String) (bytes : List UInt8) :
    tokens (bytesOf (quoted text) ++ bytes) = (tokens bytes).map (.scalar (.string text) :: ·) := by
  have hunits : stringOfUnits (text.toList.flatMap unitsOf) = .string text := by
    simp only [stringOfUnits, joinUnits_unitsOf, Option.bind_some, ← toBytes_ofList,
      Text.ofBytes?_toBytes, String.ofList_toList]
  have hquote : read (.string (text.toList.flatMap unitsOf).reverse) '"' =
      some ([.scalar (.string text)], .between) := by
    simp only [read, beq_self_eq_true, if_true, List.reverse_reverse, hunits]
  calc tokens (bytesOf (quoted text) ++ bytes)
      = tokensFrom (.string []) (bytesOf (text.toList.flatMap escapeChar) ++
          (bytesOf ['"'] ++ bytes)) := by
        rw [quoted, List.cons_append, tokens, tokensFrom_char_of_nil (by decide) rfl, bytesOf_append,
          List.append_assoc]
    _ = tokensFrom (.string (text.toList.flatMap unitsOf).reverse) (bytesOf ['"'] ++ bytes) := by
        rw [tokensFrom_escaped, List.append_nil]
    _ = (tokens bytes).map (.scalar (.string text) :: ·) := tokensFrom_char (by decide) hquote

/-! ## Words and numbers -/

/-- No word or number goes on here. -/
def IsApart (bytes : List UInt8) : Prop :=
  ∀ b ∈ bytes.head?, isBare (Char.ofNat b.toNat) = false

theorem toNat_lt_of_isBare (h : isBare c = true) : c.toNat < 128 := by
  delta isBare Char.isAlphanum Char.isAlpha Char.isUpper Char.isLower Char.isDigit at h
  simp only [Bool.or_eq_true, Bool.and_eq_true, decide_eq_true_eq, beq_iff_eq] at h
  rcases h with (((((⟨-, h⟩ | ⟨-, h⟩) | ⟨-, h⟩) | rfl) | rfl) | rfl)
  all_goals first | decide | exact Nat.lt_of_le_of_lt h (by decide)

theorem readBetween_of_isBare (h : isBare c = true) : readBetween c = some ([], .bare [c]) := by
  have hblank : isBlank c = false := by
    apply Bool.eq_false_iff.mpr
    intro hc
    simp only [isBlank, Bool.or_eq_true, beq_iff_eq] at hc
    rcases hc with ((rfl | rfl) | rfl) | rfl <;> exact absurd h (by decide)
  have hquote : (c == '"') = false := by
    apply beq_eq_false_iff_ne.mpr
    intro hc
    subst hc
    exact absurd h (by decide)
  simp [readBetween, hblank, hquote, h]

theorem tokensFrom_bare (sofar : List Char) {word : List Char} (hword : ∀ c ∈ word, isBare c = true)
    (bytes : List UInt8) :
    tokensFrom (.bare sofar) (bytesOf word ++ bytes) =
      tokensFrom (.bare (word.reverse ++ sofar)) bytes := by
  induction word generalizing sofar with
  | nil => rfl
  | cons c word ih =>
    rw [List.forall_mem_cons] at hword
    have hfirst : read (.bare sofar) c = some ([], .bare (c :: sofar)) := if_pos hword.1
    rw [tokensFrom_char_of_nil (toNat_lt_of_isBare hword.1) hfirst, ih _ hword.2]
    simp

theorem tokensFrom_bare_of_isApart {sofar : List Char} {v : Value}
    (hv : bare? sofar.reverse = some v) (hbytes : IsApart bytes) :
    tokensFrom (.bare sofar) bytes = (tokens bytes).map (.scalar v :: ·) := by
  have htoken : bareToken sofar = some (.scalar v) := by rw [bareToken, hv]; rfl
  cases bytes with
  | nil => simp [tokensFrom, readEnd, htoken, tokens]
  | cons b bytes =>
    have hb : isBare (Char.ofNat b.toNat) = false := hbytes b rfl
    simp only [tokens, tokensFrom, readByte, read, hb, htoken]
    split
    · cases readBetween (Char.ofNat b.toNat) with
      | none => rfl
      | some found =>
        obtain ⟨ts, next⟩ := found
        simp only [Option.bind_eq_bind, Option.bind_some, Bool.false_eq_true, if_false,
          Option.pure_def]
        cases tokensFrom next bytes <;> rfl
    · rfl

theorem tokens_bare {word : List Char} {v : Value} (hne : word ≠ [])
    (hword : ∀ c ∈ word, isBare c = true) (hv : bare? word = some v) (hbytes : IsApart bytes) :
    tokens (bytesOf word ++ bytes) = (tokens bytes).map (.scalar v :: ·) := by
  obtain ⟨c, word, rfl⟩ := List.exists_cons_of_ne_nil hne
  rw [List.forall_mem_cons] at hword
  have hfirst : read .between c = some ([], .bare [c]) := readBetween_of_isBare hword.1
  rw [tokens, tokensFrom_char_of_nil (toNat_lt_of_isBare hword.1) hfirst,
    tokensFrom_bare _ hword.2]
  refine tokensFrom_bare_of_isApart ?_ hbytes
  rw [List.reverse_append, List.reverse_reverse]
  exact hv

end Conformance.Json
