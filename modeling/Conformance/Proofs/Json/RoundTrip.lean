import Conformance.Json.Reader
import Conformance.Proofs.Json.Tokens
import Mathlib.Data.List.Forall2

/-!
# Reading written JSON

What is written is read back as it was: first as the tokens that the value was laid out from, and
from these as the value.
-/
namespace Conformance.Json

namespace Value

mutual

/-- Whether a text can hold the value: its numbers are ones, and its strings are text. -/
def IsWritable : Value → Prop
  | .number digits => isNumber digits.toList = true ∧ digits.toList.all isBare = true
  | .illFormed => False
  | .array items => AreWritable items
  | .object members => HaveWritable members
  | _ => True

def AreWritable : List Value → Prop
  | [] => True
  | v :: vs => v.IsWritable ∧ AreWritable vs

def HaveWritable : List (String × Value) → Prop
  | [] => True
  | (_, v) :: members => v.IsWritable ∧ HaveWritable members

end

def separated : List (List Token) → List Token
  | [] => []
  | ts :: tss => ts ++ tss.flatMap (.comma :: ·)

mutual

def tokens : Value → List Token
  | .array items => .openArray :: separated (itemTokens items) ++ [.closeArray]
  | .object members => .openObject :: separated (memberTokens members) ++ [.closeObject]
  | v => [.scalar v]

def itemTokens : List Value → List (List Token)
  | [] => []
  | v :: vs => v.tokens :: itemTokens vs

def memberTokens : List (String × Value) → List (List Token)
  | [] => []
  | (name, v) :: members =>
    (.scalar (.string name) :: .colon :: v.tokens) :: memberTokens members

end

end Value

/-! ## From characters to tokens -/

/-- A part of a text is cut into tokens, whatever comes after it. -/
def Reads (part : List Char) (ts : List Token) : Prop :=
  ∀ rest, IsApart rest → Json.tokens (bytesOf part ++ rest) = (Json.tokens rest).map (ts ++ ·)

theorem isApart_newLine (depth : Nat) (cs : List Char) (bytes : List UInt8) :
    IsApart (bytesOf (newLine depth ++ cs) ++ bytes) := by
  intro b hb
  cases hb
  rfl

/-- Further parts of a layout, up to its closing bracket. -/
theorem tokens_flatMap_parts {parts : List (List Char)} {tss : List (List Token)} (depth : Nat)
    (hparts : List.Forall₂ Reads parts tss) {tail : List UInt8} (htail : IsApart tail) :
    IsApart (bytesOf (parts.flatMap (fun p => ',' :: newLine (depth + 1) ++ p)) ++ tail) ∧
      Json.tokens (bytesOf (parts.flatMap (fun p => ',' :: newLine (depth + 1) ++ p)) ++ tail) =
        (Json.tokens tail).map (tss.flatMap (.comma :: ·) ++ ·) := by
  induction hparts with
  | nil => exact ⟨htail, by simp⟩
  | @cons part ts parts tss hpart _ ih =>
    obtain ⟨hapart, htokens⟩ := ih
    refine ⟨fun b hb => by cases hb; rfl, ?_⟩
    rw [List.flatMap_cons, List.cons_append, bytesOf_append, List.append_assoc,
      tokens_mark (t := .comma) (by decide) rfl, tokens_newLine, hpart _ hapart, htokens]
    simp [Function.comp_def]

theorem reads_layOut {opening closing : Char} {o c : Token} {depth : Nat}
    {parts : List (List Char)} {tss : List (List Token)}
    (hopens : opening.toNat < 128) (hopening : read .between opening = some ([o], .between))
    (hcloses : closing.toNat < 128) (hclosing : read .between closing = some ([c], .between))
    (hparts : List.Forall₂ Reads parts tss) :
    Reads (layOut depth opening closing parts) (o :: Value.separated tss ++ [c]) := by
  intro rest _
  cases hparts with
  | nil =>
    rw [layOut, tokens_mark hopens hopening, tokens_mark hcloses hclosing]
    simp [Value.separated, Function.comp_def]
  | @cons part ts parts tss hpart hmore =>
    have htail : IsApart (bytesOf (newLine depth ++ [closing]) ++ rest) :=
      isApart_newLine depth [closing] rest
    obtain ⟨hapart, htokens⟩ := tokens_flatMap_parts depth hmore htail
    have hlayout : bytesOf (layOut depth opening closing (part :: parts)) ++ rest =
        bytesOf (opening :: (newLine (depth + 1) ++ part)) ++
          (bytesOf (parts.flatMap (fun p => ',' :: newLine (depth + 1) ++ p)) ++
            (bytesOf (newLine depth ++ [closing]) ++ rest)) := by
      simp only [← List.append_assoc, ← bytesOf_append]
      simp [layOut]
    rw [hlayout, tokens_mark hopens hopening, tokens_newLine, hpart _ hapart, htokens,
      tokens_newLine, tokens_mark hcloses hclosing]
    simp [Value.separated, Function.comp_def]

theorem bare?_of_isNumber {digits : List Char} (h : isNumber digits = true) :
    bare? digits = some (.number (String.ofList digits)) := by
  have hne : ∀ word, isNumber word = false → (digits == word) = false := by
    intro word hword
    apply beq_eq_false_iff_ne.mpr
    intro heq
    rw [heq, hword] at h
    cases h
  simp only [bare?, hne "null".toList (by decide), hne "true".toList (by decide),
    hne "false".toList (by decide), h, Bool.false_eq_true, if_false, if_true]

theorem reads_word (word : List Char) {v : Value} (hne : word ≠ [])
    (hword : word.all isBare = true) (hv : bare? word = some v) :
    Reads word [.scalar v] :=
  fun _ => tokens_bare hne (List.all_eq_true.mp hword) hv

theorem reads_number {digits : String} (hnumber : isNumber digits.toList = true)
    (hbare : digits.toList.all isBare = true) :
    Reads digits.toList [.scalar (.number digits)] := by
  have hne : digits.toList ≠ [] := by
    intro hnil
    rw [hnil] at hnumber
    cases hnumber
  have hword := bare?_of_isNumber hnumber
  rw [String.ofList_toList] at hword
  exact reads_word _ hne hbare hword

mutual

theorem reads_write (depth : Nat) (v : Value) (h : v.IsWritable) :
    Reads (write depth v) v.tokens := by
  cases v with
  | null => exact reads_word "null".toList (by decide) (by decide) rfl
  | bool b =>
    cases b with
    | true => exact reads_word "true".toList (by decide) (by decide) rfl
    | false => exact reads_word "false".toList (by decide) (by decide) rfl
  | number digits =>
    rw [Value.IsWritable] at h
    exact reads_number h.1 h.2
  | string s =>
    intro rest _
    exact tokens_quoted s rest
  | illFormed => exact h.elim
  | array items =>
    exact reads_layOut (by decide) rfl (by decide) rfl (reads_writeItems depth items h)
  | object members =>
    exact reads_layOut (by decide) rfl (by decide) rfl (reads_writeMembers depth members h)

theorem reads_writeItems (depth : Nat) (items : List Value) (h : Value.AreWritable items) :
    List.Forall₂ Reads (writeItems depth items) (Value.itemTokens items) := by
  cases items with
  | nil => exact .nil
  | cons v vs =>
    exact .cons (reads_write (depth + 1) v h.1) (reads_writeItems depth vs h.2)

theorem reads_writeMembers (depth : Nat) (members : List (String × Value))
    (h : Value.HaveWritable members) :
    List.Forall₂ Reads (writeMembers depth members) (Value.memberTokens members) := by
  cases members with
  | nil => exact .nil
  | cons member members =>
    obtain ⟨name, v⟩ := member
    refine .cons ?_ (reads_writeMembers depth members h.2)
    intro rest hrest
    have hcolon : ∀ bytes, Json.tokens (bytesOf [':', ' '] ++ bytes) =
        (Json.tokens bytes).map (.colon :: ·) := by
      intro bytes
      rw [tokens_mark (t := .colon) (by decide) rfl]
      exact congrArg _ (tokensFrom_char_of_nil (by decide) rfl)
    rw [bytesOf_append, bytesOf_append, List.append_assoc, List.append_assoc, tokens_quoted, hcolon,
      reads_write (depth + 1) v h.1 rest hrest]
    simp [Function.comp_def]

end

theorem tokens_write (depth : Nat) {v : Value} (h : v.IsWritable) :
    Json.tokens (bytesOf (write depth v)) = some v.tokens := by
  have hread := reads_write depth v h [] (fun b hb => by cases hb)
  rw [List.append_nil] at hread
  rw [hread]
  simp [Json.tokens, tokensFrom, readEnd]

/-! ## From tokens to the value -/

namespace Building

theorem foldlM_step {b : Building} {t : Token} (b' : Building) (h : step b t = some b')
    (ts : List Token) :
    (t :: ts).foldlM step b = ts.foldlM step b' := by
  rw [List.foldlM_cons, h]
  rfl

/-- What a value begins with can stand where an array might have been closed. -/
theorem foldlM_itemOrClose (v : Value) (stack : List Container) (ts : List Token) :
    (v.tokens ++ ts).foldlM step (.open .itemOrClose stack) =
      (v.tokens ++ ts).foldlM step (.open .value stack) := by
  cases v <;> rfl

mutual

theorem foldlM_value (v : Value) (stack : List Container) (ts : List Token) :
    (v.tokens ++ ts).foldlM step (.open .value stack) = ts.foldlM step (complete v stack) := by
  cases v with
  | array items =>
    rw [Value.tokens, List.cons_append, List.cons_append,
      foldlM_step (.open .itemOrClose (.array [] :: stack)) rfl, List.append_assoc]
    cases items with
    | nil => exact foldlM_step _ rfl ts
    | cons v vs =>
      rw [Value.itemTokens, Value.separated, List.append_assoc, foldlM_itemOrClose, foldlM_value v]
      exact foldlM_items vs [v] stack ts
  | object members =>
    rw [Value.tokens, List.cons_append, List.cons_append,
      foldlM_step (.open .nameOrClose (.object [] "" :: stack)) rfl, List.append_assoc]
    cases members with
    | nil => exact foldlM_step _ rfl ts
    | cons member members =>
      obtain ⟨name, v⟩ := member
      rw [Value.memberTokens, Value.separated, List.append_assoc, List.cons_append,
        List.cons_append, foldlM_step (.open .colon (.object [] name :: stack)) rfl,
        foldlM_step (.open .value (.object [] name :: stack)) rfl, foldlM_value v]
      exact foldlM_members members [(name, v)] name stack ts
  | _ => exact foldlM_step _ rfl ts

theorem foldlM_items (vs sofar : List Value) (stack : List Container) (ts : List Token) :
    ((Value.itemTokens vs).flatMap (Token.comma :: ·) ++ ([Token.closeArray] ++ ts)).foldlM step
        (.open .commaOrClose (.array sofar :: stack)) =
      ts.foldlM step (complete (.array (sofar.reverse ++ vs)) stack) := by
  cases vs with
  | nil =>
    rw [List.append_nil]
    exact foldlM_step _ rfl ts
  | cons v vs =>
    rw [Value.itemTokens, List.flatMap_cons, List.append_assoc, List.cons_append,
      foldlM_step (.open .value (.array sofar :: stack)) rfl, foldlM_value v]
    have hmore := foldlM_items vs (v :: sofar) stack ts
    rw [List.reverse_cons, List.append_assoc] at hmore
    exact hmore

theorem foldlM_members (members sofar : List (String × Value)) (last : String)
    (stack : List Container) (ts : List Token) :
    ((Value.memberTokens members).flatMap (Token.comma :: ·) ++ ([Token.closeObject] ++ ts)).foldlM step
        (.open .commaOrClose (.object sofar last :: stack)) =
      ts.foldlM step (complete (.object (sofar.reverse ++ members)) stack) := by
  cases members with
  | nil =>
    rw [List.append_nil]
    exact foldlM_step _ rfl ts
  | cons member members =>
    obtain ⟨name, v⟩ := member
    rw [Value.memberTokens, List.flatMap_cons, List.append_assoc, List.cons_append,
      foldlM_step (.open .name (.object sofar last :: stack)) rfl, List.cons_append,
      foldlM_step (.open .colon (.object sofar name :: stack)) rfl, List.cons_append,
      foldlM_step (.open .value (.object sofar name :: stack)) rfl, foldlM_value v]
    have hmore := foldlM_members members ((name, v) :: sofar) name stack ts
    rw [List.reverse_cons, List.append_assoc] at hmore
    exact hmore

end

end Building

theorem ofTokens?_tokens (v : Value) : ofTokens? v.tokens = some v := by
  have hvalue := Building.foldlM_value v [] []
  rw [List.append_nil] at hvalue
  rw [ofTokens?, Building.start, hvalue]
  rfl

theorem parse?_print {v : Value} (h : v.IsWritable) :
    parse? (Text.toBytes (print v)) = some v := by
  rw [parse?, print, toBytes_ofList, tokens_write 0 h, Option.bind_some, ofTokens?_tokens]

end Conformance.Json
