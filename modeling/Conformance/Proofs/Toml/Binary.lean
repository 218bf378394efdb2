import Conformance.Toml.Document
import Mathlib.Algebra.Group.Nat.Defs
import Mathlib.Tactic.Common

/-!
# Writing numbers

A number of fewer than 64 bits that is written in binary notation is read back, as the value of an
entry and so in any text that holds it.
-/
namespace Conformance.Toml

variable {b n : Nat} {s : List Char}

/-! ## Digits -/

theorem exists_toDigits (hb : 1 < b) (n : Nat) :
    ∃ ds, ds ≠ [] ∧ (∀ d ∈ ds, d < b) ∧ Nat.toDigits b n = ds.map Nat.digitChar := by
  induction n using Nat.base_induction b hb with
  | single m hm => exact ⟨[m], by simp, by simpa, Nat.toDigits_of_lt_base hm⟩
  | digit m k hk hm ih =>
    obtain ⟨ds, -, hall, hds⟩ := ih
    refine ⟨ds ++ [k], by simp, List.forall_mem_append.mpr ⟨hall, by simpa⟩, ?_⟩
    rw [← Nat.toDigits_append_toDigits hb hm hk, hds, Nat.toDigits_of_lt_base hk]
    simp

theorem digit?_digitChar {d : Nat} (hb : b ≤ 10) (hd : d < b) : digit? b d.digitChar = some d := by
  have hhex : ∀ d < 10, Unicode.hexDigit? d.digitChar = some d := by decide
  rw [digit?, hhex d (by omega), Option.filter_some, if_pos (by simpa)]

theorem digits?_map_digitChar {ds : List Nat} (hb : b ≤ 10) (hne : ds ≠ [])
    (hall : ∀ d ∈ ds, d < b) : digits? b (ds.map Nat.digitChar) = some ds := by
  induction ds with
  | nil => exact absurd rfl hne
  | cons d ds ih =>
    rw [List.forall_mem_cons] at hall
    have hd := digit?_digitChar hb hall.1
    cases ds with
    | nil => simp [digits?, hd]
    | cons d' ds =>
      have hrest := ih (List.cons_ne_nil _ _) hall.2
      rw [List.map_cons, List.map_cons, digits?, ← List.map_cons, hrest, hd]
      · rfl
      · simp
      · -- a digit is no underscore
        intro s hs
        have hunderscore : ∀ d < 10, d.digitChar ≠ '_' := by decide
        exact hunderscore d' (by have := hall.2 d' List.mem_cons_self; omega) (List.cons.inj hs).1

theorem valueOf_eq_ofDigitChars {ds : List Nat} (hb : b ≤ 10) (hall : ∀ d ∈ ds, d < b) (m : Nat) :
    ds.foldl (fun n d => b * n + d) m = Nat.ofDigitChars b (ds.map Nat.digitChar) m := by
  induction ds generalizing m with
  | nil => rw [List.foldl_nil, List.map_nil, Nat.ofDigitChars_nil]
  | cons d ds ih =>
    rw [List.forall_mem_cons] at hall
    rw [List.foldl_cons, List.map_cons, Nat.ofDigitChars_cons_digitChar_of_lt_ten (by omega),
      ih hall.2]

theorem map_valueOf_toDigits (hb : 1 < b) (hb' : b ≤ 10) (n : Nat) :
    (digits? b (Nat.toDigits b n)).map (valueOf b) = some n := by
  obtain ⟨ds, hne, hall, hds⟩ := exists_toDigits hb n
  rw [hds, digits?_map_digitChar hb' hne hall, Option.map_some, valueOf,
    valueOf_eq_ofDigitChars hb' hall, ← hds, Nat.ofDigitChars_toDigits hb hb']

/-! ## Values -/

def binary (n : Nat) : List Char :=
  '0' :: 'b' :: Nat.toDigits 2 n

theorem integer?_binary (h : n < 2 ^ 63) : integer? (binary n) = some (n : Int) := by
  have hvalue := congrArg (Option.map (Nat.cast (R := Int)))
    (map_valueOf_toDigits (b := 2) (by decide) (by decide) n)
  rw [Option.map_map, Option.map_some] at hvalue
  change Option.filter _ (Option.map (Nat.cast ∘ valueOf 2) _) = _
  rw [hvalue, Option.filter_some, if_pos]
  rw [Bool.and_eq_true, decide_eq_true_eq, decide_eq_true_eq]
  omega

theorem scalar?_binary (h : n < 2 ^ 63) :
    scalar? (String.ofList (binary n)) = some (.integer n) := by
  have hdate : isDate (binary n) = false := rfl
  have hfloat : isFloat (binary n) = false := rfl
  have htrue : (String.ofList (binary n) == "true") = false := by
    rw [beq_eq_false_iff_ne, ne_eq, ← String.toList_inj, String.toList_ofList]
    simp [binary]
  have hfalse : (String.ofList (binary n) == "false") = false := by
    rw [beq_eq_false_iff_ne, ne_eq, ← String.toList_inj, String.toList_ofList]
    simp [binary]
  rw [scalar?, String.toList_ofList, hdate, hfloat, htrue, hfalse, integer?_binary h]
  rfl

/-! ## Tokens -/

theorem isWord_of_mem_toDigits {c : Char} (h : c ∈ Nat.toDigits 2 n) : isWord c = true := by
  have hdigit := Nat.isDigit_of_mem_toDigits (by decide) (by decide) h
  rw [isWord, Char.isAlphanum, hdigit, Bool.or_true]
  rfl

/-- Reads a text from one place on, which completes tokens and leads to another place. -/
def readAll : Place → List Char → Option (List Token × Place)
  | place, [] => some ([], place)
  | place, c :: s => do
    let (ts, next) ← read place c
    let (us, last) ← readAll next s
    return (ts ++ us, last)

theorem tokensFrom_append {place next : Place} {ts : List Token}
    (h : readAll place s = some (ts, next)) (rest : List Char) :
    tokensFrom place (s ++ rest) = (tokensFrom next rest).map (ts ++ ·) := by
  induction s generalizing place ts with
  | nil =>
    cases h
    simp
  | cons c s ih =>
    obtain ⟨⟨us, middle⟩, hread, h⟩ := Option.bind_eq_some_iff.mp h
    obtain ⟨⟨vs, last⟩, hall, h⟩ := Option.bind_eq_some_iff.mp h
    cases h
    rw [List.cons_append, tokensFrom, hread, Option.bind_eq_bind, Option.bind_some]
    dsimp only
    rw [ih hall]
    cases tokensFrom next rest <;> simp

theorem tokensFrom_word {sofar : List Char} (h : ∀ c ∈ s, isWord c = true) :
    tokensFrom (.word sofar) s = some [.word (String.ofList (sofar.reverse ++ s))] := by
  induction s generalizing sofar with
  | nil => simp [tokensFrom, readEnd]
  | cons c s ih =>
    rw [List.forall_mem_cons] at h
    rw [tokensFrom, read, if_pos h.1, Option.bind_eq_bind, Option.bind_some]
    dsimp only
    rw [ih h.2]
    simp

theorem lineFeeds_of_notMem (h : '\r' ∉ s) : lineFeeds s = some s := by
  induction s with
  | nil => rfl
  | cons c s ih =>
    rw [List.mem_cons, not_or] at h
    rw [lineFeeds, ih h.2]
    · simp [Ne.symm h.1]
    · intro s' hc
      exact absurd hc.symm h.1

theorem value?_word {depth : Nat} (text : String) : value? depth [.word text] = scalar? text := by
  have hjoin : String.join [text] = text := by simp [String.join]
  have hvalue : value? depth [.word text] = scalar? (String.join [text]) := by
    cases depth <;> rfl
  rw [hvalue, hjoin]

end Conformance.Toml
