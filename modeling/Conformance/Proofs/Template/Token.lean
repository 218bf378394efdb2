import Conformance.Template.Token
import Mathlib.Data.List.Chain

/-!
# The tokens of a line

The tokens cut the line into literal text, never empty, and names between double braces. Where they
cut it is settled by the pairs of braces: a name begins behind the first opening pair and ends before
the first closing pair after that.
-/
namespace Conformance.Template

variable {ts : List Token} {t line : List Char}

/-- The tokens stand in the line one after the other, names with blanks around them. -/
inductive Cuts : List Token → List Char → Prop where
  | nil : Cuts [] []
  | literal {ts : List Token} {t line : List Char} : t ≠ [] → Cuts ts line →
    Cuts (.literal t :: ts) (t ++ line)
  | placeholder {ts : List Token} {name line : List Char} : Cuts ts line →
    Cuts (.placeholder (Text.trimList name) :: ts)
      ('\x7b' :: '\x7b' :: (name ++ '\x7d' :: '\x7d' :: line))

def Place.shown : Place → List Char
  | .text sofar held => (settle '\x7b' held sofar).reverse
  | .name sofar held => '\x7b' :: '\x7b' :: (settle '\x7d' held sofar).reverse

theorem Cuts.literalToken (h : Cuts ts line) (sofar : List Char) :
    Cuts (literalToken sofar ++ ts) (sofar.reverse ++ line) := by
  cases sofar with
  | nil => exact h
  | cons c s => exact .literal (by simp) h

theorem cuts_tokensFrom (place : Place) (s : List Char) :
    Cuts (tokensFrom place s) (place.shown ++ s) := by
  fun_induction tokensFrom place s with
  | case1 sofar held => simpa [Place.shown] using Cuts.nil.literalToken (settle '\x7b' held sofar)
  | case2 sofar held =>
    simpa [Place.shown] using
      Cuts.nil.literalToken (settle '\x7d' held sofar ++ ['\x7b', '\x7b'])
  | case3 sofar s ih => simpa [Place.shown, settle] using ih.literalToken sofar
  | case4 sofar held s hheld ih => simpa [Place.shown, settle, hheld] using ih
  | case5 sofar held c s hc ih => simpa [Place.shown, settle] using ih
  | case6 sofar s ih => simpa [Place.shown, settle] using @Cuts.placeholder _ sofar.reverse _ ih
  | case7 sofar held s hheld ih => simpa [Place.shown, settle, hheld] using ih
  | case8 sofar held c s hc ih => simpa [Place.shown, settle] using ih

theorem cuts_tokens (line : List Char) : Cuts (tokens line) line :=
  cuts_tokensFrom (.text [] false) line

theorem Cuts.prefix (h : Cuts (.literal t :: ts) line) : t ≠ [] ∧ t <+: line := by
  cases h with
  | literal ht _ => exact ⟨ht, List.prefix_append _ _⟩

theorem Cuts.suffix (h : Cuts (ts ++ [.literal t]) line) : t ≠ [] ∧ t <:+ line := by
  generalize hts : ts ++ [.literal t] = all at h
  induction h generalizing ts with
  | nil => simp at hts
  | @literal rest t' line ht' hrest ih =>
    cases ts with
    | nil =>
      obtain ⟨heq, rfl⟩ := List.cons.inj hts
      cases heq
      cases hrest
      exact ⟨ht', by simp⟩
    | cons token ts => exact (ih (List.cons.inj hts).2).imp_right (·.trans (List.suffix_append _ _))
  | @placeholder rest name line hrest ih =>
    cases ts with
    | nil => cases (List.cons.inj hts).1
    | cons token ts =>
      refine (ih (List.cons.inj hts).2).imp_right (·.trans ?_)
      exact ⟨'\x7b' :: '\x7b' :: (name ++ ['\x7d', '\x7d']), by simp⟩

/-- What a token adds to a line that has no placeholders. -/
def Token.literalText : Token → List Char
  | .literal text => text
  | .placeholder _ => []

theorem Cuts.line_eq (h : Cuts ts line) (hplain : ∀ name, .placeholder name ∉ ts) :
    line = ts.flatMap Token.literalText := by
  induction h with
  | nil => rfl
  | literal _ _ ih =>
    rw [List.flatMap_cons, ← ih fun name hmem => hplain name (List.mem_cons_of_mem _ hmem)]
    rfl
  | placeholder _ _ => exact (hplain _ List.mem_cons_self).elim

/-! ## Pairs of braces -/

variable {α : Type} {brace : Char} {s name : List Char}

def NoPair (brace : Char) (s : List Char) : Prop :=
  s.IsChain fun c d => ¬ (c = brace ∧ d = brace)

theorem NoPair.of_cons {c : Char} (h : NoPair brace (c :: s)) : NoPair brace s :=
  List.IsChain.of_cons h

theorem NoPair.cons {c : Char} (h : NoPair brace s) (hc : c = brace → s.head? ≠ some brace) :
    NoPair brace (c :: s) := by
  apply List.isChain_cons.mpr
  refine ⟨?_, h⟩
  rintro d hd ⟨rfl, rfl⟩
  exact hc rfl hd

theorem not_noPair (brace : Char) (s : List Char) : ¬ NoPair brace (brace :: brace :: s) := by
  intro h
  exact (List.isChain_cons_cons.mp h).1 ⟨rfl, rfl⟩

theorem noPair_concat : NoPair brace (s ++ [brace]) ↔ NoPair brace s ∧ s.getLast? ≠ some brace := by
  unfold NoPair
  rw [List.isChain_append]
  constructor
  · rintro ⟨hs, -, hlast⟩
    exact ⟨hs, fun h => hlast brace h brace rfl ⟨rfl, rfl⟩⟩
  · rintro ⟨hs, hlast⟩
    refine ⟨hs, List.isChain_singleton _, ?_⟩
    rintro c hc d hd ⟨rfl, -⟩
    exact hlast hc

theorem noPair_or_split (brace : Char) (s : List Char) : NoPair brace s ∨
    ∃ t rest, NoPair brace (t ++ [brace]) ∧ s = t ++ brace :: brace :: rest := by
  induction s with
  | nil => exact .inl List.isChain_nil
  | cons c s ih =>
    by_cases hpair : c = brace ∧ s.head? = some brace
    · obtain ⟨rfl, hhead⟩ := hpair
      obtain ⟨rest, rfl⟩ := List.head?_eq_some_iff.mp hhead
      exact .inr ⟨[], rest, List.isChain_singleton _, rfl⟩
    · rcases ih with hs | ⟨t, rest, ht, rfl⟩
      · exact .inl (hs.cons fun hc hhead => hpair ⟨hc, hhead⟩)
      · refine .inr ⟨c :: t, rest, ht.cons fun hc hhead => hpair ⟨hc, ?_⟩, rfl⟩
        cases t with
        | nil => rfl
        | cons d t => exact hhead

section
variable {f : List Char → Bool → List Char → α} {g : List Char → α}
  (hhold : ∀ sofar s, f sofar false (brace :: s) = f sofar true s)
  (hpass : ∀ sofar held c s, c ≠ brace →
    f sofar held (c :: s) = f (c :: settle brace held sofar) false s)
include hhold hpass

/-- Up to a pair every character is read as what it is. -/
theorem read_of_noPair (held : Bool) (h : NoPair brace (settle brace held (t ++ [brace])))
    (sofar rest : List Char) :
    f sofar held (t ++ rest) = f (t.reverse ++ settle brace held sofar) false rest := by
  induction t generalizing sofar held with
  | nil =>
    cases held with
    | false => rfl
    | true => exact absurd h (not_noPair brace [])
  | cons c t ih =>
    by_cases hc : c = brace
    · subst hc
      cases held with
      | false =>
        rw [List.cons_append, hhold, ih true h]
        simp [settle]
      | true => exact absurd h (not_noPair c _)
    · have hrest : NoPair brace (t ++ [brace]) := by
        cases held with
        | false => exact h.of_cons
        | true => exact h.of_cons.of_cons
      rw [List.cons_append, hpass _ _ _ _ hc, ih false hrest]
      simp [settle]

theorem read_to_end (hdone : ∀ sofar held, f sofar held [] = g (settle brace held sofar))
    (h : NoPair brace t) : f [] false t = g t.reverse := by
  by_cases hlast : t.getLast? = some brace
  · obtain ⟨t, rfl⟩ := List.getLast?_eq_some_iff.mp hlast
    rw [read_of_noPair hhold hpass false h, hhold, hdone]
    simp [settle]
  · have hread := read_of_noPair hhold hpass false (noPair_concat.mpr ⟨h, hlast⟩) [] []
    rw [List.append_nil] at hread
    rw [hread, hdone]
    simp [settle]

end

/-! ## Where a line is cut -/

/-- A line is literal text up to two opening braces, then a name up to two closing ones, and so on.
Where no closing braces follow, the rest of the line is literal text with its opening braces. -/
inductive Delimits : List Token → List Char → Prop where
  | text {t : List Char} : NoPair '\x7b' t → Delimits (literalToken t.reverse) t
  | unclosed {t name : List Char} : NoPair '\x7b' (t ++ ['\x7b']) → NoPair '\x7d' name →
    Delimits (literalToken t.reverse ++ [.literal ('\x7b' :: '\x7b' :: name)])
      (t ++ '\x7b' :: '\x7b' :: name)
  | placeholder {ts : List Token} {t name line : List Char} : NoPair '\x7b' (t ++ ['\x7b']) →
    NoPair '\x7d' (name ++ ['\x7d']) → Delimits ts line →
    Delimits (literalToken t.reverse ++ .placeholder (Text.trimList name) :: ts)
      (t ++ '\x7b' :: '\x7b' :: (name ++ '\x7d' :: '\x7d' :: line))

theorem tokensFrom_text_hold (sofar s : List Char) :
    tokensFrom (.text sofar false) ('\x7b' :: s) = tokensFrom (.text sofar true) s := by
  simp [tokensFrom]

theorem tokensFrom_text_pass (sofar : List Char) (held : Bool) (c : Char) (s : List Char)
    (hc : c ≠ '\x7b') : tokensFrom (.text sofar held) (c :: s) =
      tokensFrom (.text (c :: settle '\x7b' held sofar) false) s := by
  simp [tokensFrom, hc]

theorem tokensFrom_name_hold (sofar s : List Char) :
    tokensFrom (.name sofar false) ('\x7d' :: s) = tokensFrom (.name sofar true) s := by
  simp [tokensFrom]

theorem tokensFrom_name_pass (sofar : List Char) (held : Bool) (c : Char) (s : List Char)
    (hc : c ≠ '\x7d') : tokensFrom (.name sofar held) (c :: s) =
      tokensFrom (.name (c :: settle '\x7d' held sofar) false) s := by
  simp [tokensFrom, hc]

theorem tokens_of_noPair (h : NoPair '\x7b' t) : tokens t = literalToken t.reverse :=
  read_to_end tokensFrom_text_hold tokensFrom_text_pass (fun _ _ => rfl) h

theorem tokens_append_open (h : NoPair '\x7b' (t ++ ['\x7b'])) (rest : List Char) :
    tokens (t ++ '\x7b' :: '\x7b' :: rest) =
      literalToken t.reverse ++ tokensFrom (.name [] false) rest := by
  have hread := read_of_noPair tokensFrom_text_hold tokensFrom_text_pass false h []
    ('\x7b' :: '\x7b' :: rest)
  rw [tokens, hread]
  simp [tokensFrom, settle]

theorem name_of_noPair (h : NoPair '\x7d' name) :
    tokensFrom (.name [] false) name = [.literal ('\x7b' :: '\x7b' :: name)] := by
  have hread := read_to_end (g := fun sofar => literalToken (sofar ++ ['\x7b', '\x7b']))
    tokensFrom_name_hold tokensFrom_name_pass (fun _ _ => rfl) h
  rw [hread]
  simp [literalToken]

theorem name_append_close (h : NoPair '\x7d' (name ++ ['\x7d'])) (rest : List Char) :
    tokensFrom (.name [] false) (name ++ '\x7d' :: '\x7d' :: rest) =
      .placeholder (Text.trimList name) :: tokens rest := by
  have hread := read_of_noPair tokensFrom_name_hold tokensFrom_name_pass false h []
    ('\x7d' :: '\x7d' :: rest)
  rw [hread]
  simp [tokensFrom, tokens, settle]

theorem Delimits.eq_tokens (h : Delimits ts line) : ts = tokens line := by
  induction h with
  | text ht => rw [tokens_of_noPair ht]
  | unclosed ht hname => rw [tokens_append_open ht, name_of_noPair hname]
  | placeholder ht hname _ ih => rw [tokens_append_open ht, name_append_close hname, ← ih]

theorem exists_delimits (line : List Char) : ∃ ts, Delimits ts line := by
  rcases noPair_or_split '\x7b' line with hline | ⟨t, rest, ht, hline⟩
  · exact ⟨_, .text hline⟩
  · rcases noPair_or_split '\x7d' rest with hrest | ⟨name, after, hname, hrest⟩
    · rw [hline]
      exact ⟨_, .unclosed ht hrest⟩
    · have hshorter : after.length < line.length := by
        rw [hline, hrest]
        simp only [List.length_append, List.length_cons]
        omega
      obtain ⟨ts, hts⟩ := exists_delimits after
      rw [hline, hrest]
      exact ⟨_, .placeholder ht hname hts⟩
termination_by line.length

theorem delimits_tokens (line : List Char) : Delimits (tokens line) line := by
  obtain ⟨ts, hts⟩ := exists_delimits line
  rw [← hts.eq_tokens]
  exact hts

end Conformance.Template
