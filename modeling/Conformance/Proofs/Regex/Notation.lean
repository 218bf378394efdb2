import Conformance.Proofs.Except
import Conformance.Regex.Notation

/-!
# Reading ahead

No reader of a piece of notation looks beyond a closing parenthesis that the notation itself does not
reach: what it reads, it reads in the same way whatever comes behind that parenthesis. Comments of
verbose notation are the exception, and those that have an end are none.
-/
namespace Conformance.Regex

variable {flags : Flags} {s t rest : List Char} {c : Char} {α : Type}

/-! ## Verbose notation -/

/-- Where verbose notation began a comment in the text, the comment would end in the text. -/
def endsComments : List Char → Bool
  | [] => true
  | c :: s => (c != '#' || s.contains '\n') && endsComments s

/-- A comment that is passed over in the text ends there. -/
def IsCalm (flags : Flags) (s : List Char) : Prop :=
  flags.verbose = true → endsComments s = true

theorem endsComments_suffix (h : endsComments s = true) (hrest : rest <:+ s) :
    endsComments rest = true := by
  obtain ⟨before, rfl⟩ := hrest
  induction before with
  | nil => exact h
  | cons c before ih =>
    rw [List.cons_append, endsComments, Bool.and_eq_true] at h
    exact ih h.2

theorem IsCalm.suffix (h : IsCalm flags s) (hrest : rest <:+ s) : IsCalm flags rest :=
  fun hverbose => endsComments_suffix (h hverbose) hrest

theorem dropLine_suffix (s : List Char) : dropLine s <:+ s := by
  induction s with
  | nil => exact List.suffix_rfl
  | cons c s ih =>
    rw [dropLine]
    split
    · exact List.suffix_cons c s
    · exact ih.trans (List.suffix_cons c s)

theorem dropLine_append (h : '\n' ∈ s) (t : List Char) : dropLine (s ++ t) = dropLine s ++ t := by
  induction s with
  | nil => cases h
  | cons c s ih =>
    rw [List.cons_append, dropLine, dropLine]
    split
    · rfl
    · next hne =>
      exact ih ((List.mem_cons.mp h).resolve_left fun heq => hne (beq_iff_eq.mpr heq.symm))

theorem skipVerbose_suffix (s : List Char) : skipVerbose s <:+ s := by
  fun_induction skipVerbose s with
  | case1 => exact List.suffix_rfl
  | case2 c rest _ ih => exact ih.trans (List.suffix_cons c rest)
  | case3 c rest _ _ ih => exact (ih.trans (dropLine_suffix rest)).trans (List.suffix_cons c rest)
  | case4 => exact List.suffix_rfl

theorem skipVerbose_cons (hblank : Text.isBlank c = false) (hcomment : c ≠ '#')
    (w : List Char) : skipVerbose (c :: w) = c :: w := by
  rw [skipVerbose, if_neg (by simp [hblank]), if_neg (by simpa using hcomment)]

theorem skipVerbose_append (h : endsComments s = true) (w : List Char) :
    skipVerbose (s ++ ')' :: w) = skipVerbose s ++ ')' :: w := by
  fun_induction skipVerbose s with
  | case1 => exact skipVerbose_cons (by decide) (by decide) w
  | case2 c rest hblank ih =>
    rw [endsComments, Bool.and_eq_true] at h
    rw [List.cons_append, skipVerbose, if_pos hblank, ih h.2]
  | case3 c rest hblank hcomment ih =>
    rw [endsComments, Bool.and_eq_true] at h
    have hend : '\n' ∈ rest := by simpa [hcomment, bne] using h.1
    rw [List.cons_append, skipVerbose, if_neg hblank, if_pos hcomment, dropLine_append hend,
      ih (endsComments_suffix h.2 (dropLine_suffix rest))]
  | case4 c rest hblank hcomment =>
    rw [List.cons_append, skipVerbose, if_neg hblank, if_neg hcomment]

theorem skip_suffix (flags : Flags) (s : List Char) : flags.skip s <:+ s := by
  rw [Flags.skip]
  split
  · exact skipVerbose_suffix s
  · exact List.suffix_rfl

theorem skipVerbose_skipVerbose (s : List Char) : skipVerbose (skipVerbose s) = skipVerbose s := by
  fun_induction skipVerbose s with
  | case1 => rw [skipVerbose]
  | case2 c rest _ ih => exact ih
  | case3 c rest _ _ ih => exact ih
  | case4 c rest hblank hcomment => rw [skipVerbose, if_neg hblank, if_neg hcomment]

theorem skip_skip (flags : Flags) (s : List Char) : flags.skip (flags.skip s) = flags.skip s := by
  simp only [Flags.skip]
  split
  · exact skipVerbose_skipVerbose s
  · rfl

theorem skip_cons (flags : Flags) (hblank : Text.isBlank c = false) (hcomment : c ≠ '#')
    (w : List Char) : flags.skip (c :: w) = c :: w := by
  rw [Flags.skip]
  split
  · exact skipVerbose_cons hblank hcomment w
  · rfl

theorem skip_paren (flags : Flags) (w : List Char) : flags.skip (')' :: w) = ')' :: w :=
  skip_cons flags (by decide) (by decide) w

theorem skip_append (h : IsCalm flags s) (w : List Char) :
    flags.skip (s ++ ')' :: w) = flags.skip s ++ ')' :: w := by
  rw [Flags.skip, Flags.skip]
  split
  · next hverbose => exact skipVerbose_append (h hverbose) w
  · rfl

/-! ## Readers -/

/-- A reader that leaves a rest of the text, and does not look beyond a closing parenthesis. -/
def IsLocal (flags : Flags) (read : List Char → Except Fault (α × List Char)) : Prop :=
  ∀ {s a rest}, IsCalm flags s → read s = .ok (a, rest) →
    rest <:+ s ∧ ∀ w, read (s ++ ')' :: w) = .ok (a, rest ++ ')' :: w)

/-- A reader that takes nothing beyond a closing parenthesis: what it reads where one comes behind
the text, it reads without. -/
def StopsShort (flags : Flags) (read : List Char → Except Fault (α × List Char)) : Prop :=
  ∀ {s w a rest}, IsCalm flags s → read (s ++ ')' :: w) = .ok (a, rest) →
    ∃ left, read s = .ok (a, left)

/-- A reader that goes beyond a text only to take the closing parenthesis behind it. -/
def TakesParen (flags : Flags) (read : List Char → Except Fault (α × List Char)) : Prop :=
  ∀ {s a rest}, IsCalm flags s → read (s ++ [')']) = .ok (a, rest) →
    (∃ left, read s = .ok (a, left)) ∨ ∀ w, read (s ++ ')' :: w) = .ok (a, w)

theorem StopsShort.split {read : List Char → Except Fault (α × List Char)} {w : List Char} {a : α}
    (hstops : StopsShort flags read) (hlocal : IsLocal flags read) (hcalm : IsCalm flags s)
    (h : read (s ++ ')' :: w) = .ok (a, rest)) :
    ∃ left, read s = .ok (a, left) ∧ left <:+ s ∧ rest = left ++ ')' :: w := by
  obtain ⟨left, hread⟩ := hstops hcalm h
  obtain ⟨hsuffix, hagain⟩ := hlocal hcalm hread
  rw [hagain w] at h
  cases h
  exact ⟨left, hread, hsuffix, rfl⟩

/-- A parenthesis behind the text does not make it begin with another character. -/
theorem eq_cons_of_append_paren {u w : List Char} (hc : c ≠ ')') (heq : s ++ ')' :: w = c :: u) :
    ∃ t, s = c :: t ∧ u = t ++ ')' :: w := by
  cases s with
  | nil => exact (hc (List.cons.inj heq).1.symm).elim
  | cons d t =>
    obtain ⟨rfl, rfl⟩ := List.cons.inj heq
    exact ⟨t, rfl, rfl⟩

theorem takeDigits_suffix (flags : Flags) (s : List Char) : (takeDigits flags s).2 <:+ s := by
  fun_induction takeDigits flags s with
  | case1 => exact List.suffix_rfl
  | case2 c rest _ digits left heq ih =>
    rw [heq] at ih
    exact (ih.trans (skip_suffix flags rest)).trans (List.suffix_cons c rest)
  | case3 => exact List.suffix_rfl

theorem takeDigits_append (h : IsCalm flags s) (w : List Char) :
    takeDigits flags (s ++ ')' :: w) =
      ((takeDigits flags s).1, (takeDigits flags s).2 ++ ')' :: w) := by
  fun_induction takeDigits flags s with
  | case1 => rw [List.nil_append, takeDigits, if_neg (by decide)]
  | case2 c rest hdigit digits left heq ih =>
    have hrest := h.suffix (List.suffix_cons c rest)
    rw [heq] at ih
    rw [List.cons_append, takeDigits, if_pos hdigit, skip_append hrest,
      ih (hrest.suffix (skip_suffix flags rest))]
  | case3 c rest hdigit => rw [List.cons_append, takeDigits, if_neg hdigit]

theorem dropWhile_append_paren {p : Char → Bool} (hp : p ')' = false) (s w : List Char) :
    (s ++ ')' :: w).dropWhile p = s.dropWhile p ++ ')' :: w := by
  induction s with
  | nil => exact List.dropWhile_cons_of_neg (by simp [hp])
  | cons c s ih =>
    rw [List.cons_append, List.dropWhile_cons, List.dropWhile_cons]
    split
    · exact ih
    · rfl

theorem readCount_append (hcalm : IsCalm flags s) (w : List Char) :
    readCount flags (s ++ ')' :: w) =
      (readCount flags s).map fun (n, rest) => (n, rest ++ ')' :: w) := by
  have hblank : Text.isBlank ')' = false := by decide
  have hfirst := List.dropWhile_suffix (l := s) Text.isBlank
  have hdigits := takeDigits_suffix flags (s.dropWhile Text.isBlank)
  have hafter := (List.dropWhile_suffix (l := (takeDigits flags (s.dropWhile Text.isBlank)).2)
    Text.isBlank).trans (hdigits.trans hfirst)
  simp only [readCount, dropWhile_append_paren hblank, takeDigits_append (hcalm.suffix hfirst),
    skip_append (hcalm.suffix hafter)]
  split
  · rfl
  · split <;> rfl

theorem readCount_suffix {n : Option Nat} (h : readCount flags s = .ok (n, rest)) :
    rest <:+ s := by
  have hfirst := List.dropWhile_suffix (l := s) Text.isBlank
  have hdigits := (takeDigits_suffix flags (s.dropWhile Text.isBlank)).trans hfirst
  have hwhole := (skip_suffix flags _).trans ((List.dropWhile_suffix Text.isBlank).trans hdigits)
  simp only [readCount] at h
  split at h
  · cases h
    exact hwhole
  · split at h
    · cases h
      exact hwhole
    · cases h

theorem isLocal_readCount (flags : Flags) : IsLocal flags (readCount flags) :=
  fun hcalm h => ⟨readCount_suffix h, fun w => by rw [readCount_append hcalm, h]; rfl⟩

theorem stopsShort_readCount (flags : Flags) : StopsShort flags (readCount flags) := by
  intro s w n rest hcalm h
  rw [readCount_append hcalm] at h
  cases hread : readCount flags s with
  | error fault => rw [hread] at h; cases h
  | ok found => rw [hread] at h; cases h; exact ⟨_, rfl⟩

end Conformance.Regex
