import Conformance.Json.Reader
import Conformance.Proofs.Json.Tokens
import Mathlib.Tactic.Common

/-!
# Where an object ends

The text of an object ends with the brace that closes it: cut short anywhere it is no value, and
nothing but blanks may follow it. What is read of a text does not depend on what comes after, except
in a number or a word, and a complete value takes no further tokens.
-/
namespace Conformance.Json

variable {place next : Place} {b : UInt8} {c : Char} {bytes rest : List UInt8}
  {ts us : List Token} {v w : Value}

def isBlankByte (b : UInt8) : Bool :=
  b == 0x20 || b == 0x0A || b == 0x09 || b == 0x0D

/-! ## Reading on -/

theorem tokensFrom_cons_eq_some : tokensFrom place (b :: bytes) = some us ↔
    ∃ ts next us', readByte place b = some (ts, next) ∧ tokensFrom next bytes = some us' ∧
      us = ts ++ us' := by
  rw [tokensFrom]
  cases hread : readByte place b with
  | none => simp
  | some found =>
    obtain ⟨ts, next⟩ := found
    cases hrest : tokensFrom next bytes with
    | none => simp [hrest]
    | some us' =>
      simp [hrest]
      exact eq_comm

/-- Up to any byte the tokens are read that come first in the whole. -/
theorem exists_cut (h : tokensFrom place (bytes ++ rest) = some us) :
    ∃ ts next us', us = ts ++ us' ∧ tokensFrom next rest = some us' ∧
      ∀ tail, tokensFrom place (bytes ++ tail) = (tokensFrom next tail).map (ts ++ ·) := by
  induction bytes generalizing place us with
  | nil => exact ⟨[], place, us, rfl, h, fun tail => by simp⟩
  | cons b bytes ih =>
    obtain ⟨ts, next, us', hread, hrest, rfl⟩ := tokensFrom_cons_eq_some.mp h
    obtain ⟨ts', next', us'', rfl, hlast, hcut⟩ := ih hrest
    refine ⟨ts ++ ts', next', us'', by simp, hlast, ?_⟩
    intro tail
    rw [List.cons_append, tokensFrom_cons hread, hcut, Option.map_map]
    simp [Function.comp_def]

/-- A token that is begun is not left before it is complete. -/
theorem ne_between_of_read (hplace : place ≠ .between) (h : read place c = some ([], next)) :
    next ≠ .between := by
  rintro rfl
  cases place with
  | between => exact hplace rfl
  | bare sofar =>
    rw [read] at h
    split at h
    · simp at h
    · cases hword : bareToken sofar <;> cases hafter : readBetween c <;> simp [hword, hafter] at h
  | string sofar =>
    rw [read] at h
    repeat' split at h
    all_goals simp at h
  | escape sofar =>
    rw [read] at h
    split at h
    · simp at h
    · cases hletter : escaped? c <;> simp [hletter] at h
  | code sofar missing value =>
    rw [read] at h
    cases hdigit : Unicode.hexDigit? c with
    | none => simp [hdigit] at h
    | some n =>
      simp only [hdigit, Option.map_some, Option.some.injEq] at h
      split at h <;> simp at h

theorem ne_between_of_readByte (hplace : place ≠ .between)
    (h : readByte place b = some ([], next)) : next ≠ .between := by
  unfold readByte at h
  split at h
  · exact ne_between_of_read hplace h
  · split at h
    · cases h
      exact Place.noConfusion
    · cases h

theorem tokensFrom_ne_nil (hplace : place ≠ .between) : tokensFrom place bytes ≠ some [] := by
  induction bytes generalizing place with
  | nil => cases place <;> simp_all [tokensFrom, readEnd]
  | cons b bytes ih =>
    intro h
    obtain ⟨ts, next, us', hread, hrest, hnil⟩ := tokensFrom_cons_eq_some.mp h
    obtain ⟨rfl, rfl⟩ := List.append_eq_nil_iff.mp hnil.symm
    exact ih (ne_between_of_readByte hplace hread) hrest

theorem isBlank_of_readBetween (h : readBetween c = some ([], .between)) : isBlank c = true := by
  rw [readBetween] at h
  split at h
  · assumption
  · repeat' split at h
    · simp at h
    · simp at h
    · cases hmark : mark? c <;> simp [hmark] at h

theorem isBlank_ofNat : ∀ n < 128, isBlank (Char.ofNat n) = isBlankByte (UInt8.ofNat n) := by
  decide

theorem readByte_between_iff :
    readByte .between b = some ([], .between) ↔ isBlankByte b = true := by
  have hblank : b < 0x80 → isBlank (Char.ofNat b.toNat) = isBlankByte b := fun hb => by
    rw [isBlank_ofNat b.toNat (UInt8.lt_iff_toNat_lt.mp hb), UInt8.ofNat_toNat]
  unfold readByte
  split
  · next hb =>
    rw [← hblank hb]
    exact ⟨isBlank_of_readBetween, fun h => if_pos h⟩
  · next hb =>
    refine iff_of_false (by simp) ?_
    intro h
    simp only [isBlankByte, Bool.or_eq_true, beq_iff_eq] at h
    rcases h with ((rfl | rfl) | rfl) | rfl <;> exact hb (by decide)

theorem tokens_eq_nil : tokens bytes = some [] ↔ bytes.all isBlankByte = true := by
  induction bytes with
  | nil => simp [tokens, tokensFrom, readEnd]
  | cons b bytes ih =>
    constructor
    · intro h
      obtain ⟨ts, next, us', hread, hrest, hnil⟩ := tokensFrom_cons_eq_some.mp h
      obtain ⟨rfl, rfl⟩ := List.append_eq_nil_iff.mp hnil.symm
      obtain rfl : next = .between := by
        by_contra hnext
        exact tokensFrom_ne_nil hnext hrest
      simp [readByte_between_iff.mp hread, ih.mp hrest]
    · intro h
      obtain ⟨hb, hbytes⟩ : isBlankByte b = true ∧ bytes.all isBlankByte = true := by simpa using h
      exact (tokensFrom_cons_of_nil (readByte_between_iff.mpr hb)).trans (ih.mpr hbytes)

/-- A closing brace leaves no token open, or it stands in a string that goes on. -/
theorem read_closingBrace (h : read place '\x7d' = some (ts, next)) :
    next = .between ∨ readEnd next = none := by
  cases place with
  | between => simp_all [read, readBetween, isBlank, isBare, mark?]
  | bare sofar =>
    cases hword : bareToken sofar <;>
      simp_all [read, readBetween, isBlank, isBare, mark?]
  | string sofar =>
    obtain ⟨-, rfl⟩ : [] = ts ∧ .string (.char '\x7d' :: sofar) = next := by simpa [read] using h
    right
    rfl
  | escape sofar => simp [read, escaped?] at h
  | code sofar missing value => simp [read, Unicode.hexDigit?] at h

/-- After a closing brace at which the bytes could end, reading starts anew. -/
theorem tokensFrom_closed (h : tokensFrom place (bytes ++ [0x7D]) = some us) (tail : List UInt8) :
    tokensFrom place (bytes ++ 0x7D :: tail) = (tokens tail).map (us ++ ·) := by
  obtain ⟨ts, next, us', rfl, hlast, hcut⟩ := exists_cut h
  obtain ⟨brace, after, us'', hread, hend, rfl⟩ := tokensFrom_cons_eq_some.mp hlast
  have hbrace : readByte next 0x7D = read next '\x7d' := rfl
  obtain rfl | hopen := read_closingBrace (hbrace.symm.trans hread)
  · obtain rfl : us'' = [] := by simpa [tokensFrom, readEnd, eq_comm] using hend
    rw [hcut, tokensFrom_cons hread, Option.map_map]
    simp [Function.comp_def, tokens]
  · simp [tokensFrom, hopen] at hend

/-! ## Building on -/

namespace Building

variable {b b' : Building} {stack : List Container} {t : Token}

/-- Something is open, or all is complete. -/
def IsNested : Building → Prop
  | .open _ stack => stack ≠ []
  | .done _ => True

theorem isNested_complete (v : Value) (stack : List Container) : (complete v stack).IsNested := by
  rcases stack with _ | ⟨_ | _ | _, stack⟩ <;> simp [complete, IsNested]

theorem isNested_of_closeArray? (h : closeArray? stack = some b) : b.IsNested := by
  rcases stack with _ | ⟨_ | _ | _, stack⟩ <;> simp only [closeArray?, Option.some.injEq, reduceCtorEq] at h
  subst h
  apply isNested_complete

theorem isNested_of_closeObject? (h : closeObject? stack = some b) : b.IsNested := by
  rcases stack with _ | ⟨_ | _ | _, stack⟩ <;>
    simp only [closeObject?, Option.some.injEq, reduceCtorEq] at h
  all_goals
    subst h
    apply isNested_complete

theorem isNested_of_value? (h : value? stack t = some b) : b.IsNested := by
  cases t <;> simp only [value?, Option.some.injEq, reduceCtorEq] at h
  all_goals subst h
  · simp [IsNested]
  · simp [IsNested]
  · apply isNested_complete

theorem isNested_of_name? (h : name? stack t = some b) : b.IsNested := by
  unfold name? at h
  repeat' split at h
  all_goals simp only [Option.some.injEq, reduceCtorEq] at h
  all_goals
    subst h
    simp [IsNested]

theorem isNested_of_step (hb : b.IsNested) (h : step b t = some b') : b'.IsNested := by
  cases b with
  | done v => simp [step] at h
  | «open» expected stack =>
    cases expected with
    | value => exact isNested_of_value? h
    | itemOrClose =>
      cases t with
      | closeArray => exact isNested_of_closeArray? h
      | _ =>
        simp only [step] at h
        exact isNested_of_value? h
    | name => exact isNested_of_name? h
    | nameOrClose =>
      cases t with
      | closeObject => exact isNested_of_closeObject? h
      | _ =>
        simp only [step] at h
        exact isNested_of_name? h
    | colon =>
      cases t <;> simp only [step, Option.some.injEq, reduceCtorEq] at h
      subst h
      exact hb
    | commaOrClose =>
      cases t with
      | closeArray => exact isNested_of_closeArray? h
      | closeObject => exact isNested_of_closeObject? h
      | comma =>
        rcases stack with _ | ⟨_ | _ | _, stack⟩ <;>
          simp only [step, Option.some.injEq, reduceCtorEq] at h
        all_goals
          subst h
          simp [IsNested]
      | _ => simp [step] at h

theorem isNested_of_foldlM (hb : b.IsNested) (h : ts.foldlM step b = some b') : b'.IsNested := by
  induction ts generalizing b with
  | nil =>
    obtain rfl : b = b' := by simpa using h
    exact hb
  | cons t ts ih =>
    rw [List.foldlM_cons] at h
    obtain ⟨next, hnext, hrest⟩ := Option.bind_eq_some_iff.mp h
    exact ih (isNested_of_step hb hnext) hrest

/-- Where something is open, a word or a string closes nothing. -/
theorem done?_of_step_scalar (hb : b.IsNested) (h : step b (.scalar v) = some b') :
    b'.done? = none := by
  cases b with
  | done w => simp [step] at h
  | «open» expected stack =>
    obtain ⟨container, stack, rfl⟩ := List.exists_cons_of_ne_nil hb
    cases expected <;> cases container <;> cases v <;>
      simp_all [step, value?, name?, complete, done?] <;> subst h <;> rfl

theorem foldlM_of_done (hus : us ≠ []) : us.foldlM step (.done v) = none := by
  obtain ⟨u, us, rfl⟩ := List.exists_cons_of_ne_nil hus
  simp [step]

end Building

open Building

theorem ofTokens?_eq_some :
    ofTokens? ts = some v ↔ ts.foldlM step .start = some (.done v) := by
  rw [ofTokens?, Option.bind_eq_some_iff]
  constructor
  · rintro ⟨_ | w, hfold, hdone⟩
    · simp [done?] at hdone
    · obtain rfl : w = v := by simpa [done?] using hdone
      exact hfold
  · intro hfold
    exact ⟨_, hfold, rfl⟩

/-- No two values are one a part of the other. -/
theorem ofTokens?_append (h : ofTokens? ts = some v) (hus : us ≠ []) :
    ofTokens? (ts ++ us) = none := by
  rw [ofTokens?, List.foldlM_append, ofTokens?_eq_some.mp h]
  simp [foldlM_of_done hus]

theorem ofTokens?_scalar (ts : List Token) (v : Value) :
    ofTokens? (.openObject :: ts ++ [.scalar v]) = none := by
  rw [ofTokens?, List.foldlM_append]
  cases hbefore : (Token.openObject :: ts).foldlM step .start with
  | none => rfl
  | some b =>
    have hnested : b.IsNested := by
      rw [List.foldlM_cons] at hbefore
      obtain ⟨first, hfirst, hrest⟩ := Option.bind_eq_some_iff.mp hbefore
      simp only [start, step] at hfirst
      exact isNested_of_foldlM (isNested_of_value? hfirst) hrest
    cases hlast : step b (.scalar v) with
    | none => simp [hlast]
    | some b' => simp [hlast, done?_of_step_scalar hnested hlast]

/-! ## Bytes of objects -/

def IsBraced (bytes : List UInt8) : Prop :=
  ∃ body, bytes = 0x7B :: (body ++ [0x7D])

theorem IsBraced.not_isBlank_of_append (h : IsBraced (bytes ++ rest)) (hrest : rest ≠ []) :
    rest.all isBlankByte = false := by
  obtain ⟨body, hbody⟩ := h
  have hlast : rest.getLast? = some 0x7D := by
    have hwhole : (bytes ++ rest).getLast? = some 0x7D := by
      rw [hbody, ← List.cons_append]
      exact List.getLast?_concat
    simpa [List.getLast?_append, hrest] using hwhole
  apply Bool.eq_false_iff.mpr
  intro hblank
  have hbrace := List.all_eq_true.mp hblank _ (List.mem_of_getLast? hlast)
  simp [isBlankByte] at hbrace

theorem readEnd_eq_some (h : readEnd place = some ts) :
    place = .between ∧ ts = [] ∨ ∃ v, ts = [.scalar v] := by
  cases place with
  | between => simp_all [readEnd]
  | bare sofar =>
    right
    cases hword : bare? sofar.reverse with
    | none => simp [readEnd, bareToken, hword] at h
    | some v =>
      obtain rfl : [.scalar v] = ts := by simpa [readEnd, bareToken, hword] using h
      exact ⟨v, rfl⟩
  | _ => simp [readEnd] at h

theorem ofTokens?_cut (htokens : tokens (bytes ++ rest) = some us)
    (hvalue : ofTokens? (.openObject :: us) = some v) (hrest : rest.all isBlankByte = false)
    (hcut : tokens bytes = some ts) : ofTokens? (.openObject :: ts) = none := by
  obtain ⟨sofar, next, left, rfl, hleft, hread⟩ := exists_cut htokens
  obtain ⟨last, hlast, rfl⟩ : ∃ last, readEnd next = some last ∧ sofar ++ last = ts := by
    have hend := hread []
    rw [List.append_nil] at hend
    exact Option.map_eq_some_iff.mp (hend.symm.trans hcut)
  obtain ⟨rfl, rfl⟩ | ⟨w, rfl⟩ := readEnd_eq_some hlast
  · have hleft_ne : left ≠ [] := by
      rintro rfl
      rw [tokens_eq_nil.mp hleft] at hrest
      cases hrest
    cases hsofar : ofTokens? (.openObject :: sofar) with
    | none => simpa using hsofar
    | some w =>
      have hmore := ofTokens?_append hsofar hleft_ne
      simp [hvalue] at hmore
  · exact ofTokens?_scalar sofar w

/-- The bytes of an object that are cut short anywhere are no value. -/
theorem parse?_of_isPrefix {whole part : List UInt8} (hbraced : IsBraced whole)
    (h : parse? whole = some v) (hpart : part <+: whole) (hne : part ≠ whole) :
    parse? part = none := by
  obtain ⟨rest, rfl⟩ := hpart
  have hrest_ne : rest ≠ [] := by
    rintro rfl
    exact hne (List.append_nil part).symm
  have hfull : rest.all isBlankByte = false := hbraced.not_isBlank_of_append hrest_ne
  obtain ⟨body, hbody⟩ := hbraced
  cases part with
  | nil => rfl
  | cons b bytes =>
    obtain ⟨rfl, -⟩ : b = 0x7B ∧ bytes ++ rest = body ++ [0x7D] := by simpa using hbody
    have hopens : readByte .between 0x7B = some ([.openObject], .between) := rfl
    have hbrace : ∀ bytes, tokens (0x7B :: bytes) = (tokens bytes).map (.openObject :: ·) :=
      fun bytes => tokensFrom_cons hopens
    obtain ⟨us, htokens, hvalue⟩ : ∃ us, tokens (bytes ++ rest) = some us ∧
        ofTokens? (.openObject :: us) = some v := by
      rw [parse?, List.cons_append, hbrace, Option.bind_map] at h
      exact Option.bind_eq_some_iff.mp h
    rw [parse?, hbrace]
    cases hts : tokens bytes with
    | none => rfl
    | some ts => exact ofTokens?_cut htokens hvalue hfull hts

/-- Nothing but blanks may follow a closing brace at which the bytes could end. -/
theorem parse?_append {whole extra : List UInt8} (hbraced : IsBraced whole)
    (h : parse? whole = some v) :
    parse? (whole ++ extra) = if extra.all isBlankByte then some v else none := by
  obtain ⟨body, rfl⟩ := hbraced
  obtain ⟨us, htokens, hvalue⟩ := Option.bind_eq_some_iff.mp h
  have hread : tokens (0x7B :: (body ++ [0x7D]) ++ extra) = (tokens extra).map (us ++ ·) := by
    rw [← List.cons_append] at htokens ⊢
    rw [List.append_assoc]
    exact tokensFrom_closed htokens extra
  rw [parse?, hread]
  cases hextra : tokens extra with
  | none =>
    have hblank : ¬ extra.all isBlankByte = true := by
      intro hblank
      simp [tokens_eq_nil.mpr hblank] at hextra
    simp [hblank]
  | some more =>
    by_cases hmore : more = []
    · subst hmore
      simp [tokens_eq_nil.mp hextra, hvalue]
    · have hblank : ¬ extra.all isBlankByte = true := by
        intro hblank
        rw [tokens_eq_nil.mpr hblank] at hextra
        exact hmore (Option.some.inj hextra).symm
      simp [hblank, ofTokens?_append hvalue hmore]

end Conformance.Json
