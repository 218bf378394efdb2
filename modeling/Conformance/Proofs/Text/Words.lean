import Conformance.Proofs.Text.Blank

/-!
# Words

Blanks divide a text into words. How many blanks stand between two words makes no difference, nor do
blanks at the ends.
-/
namespace Conformance.Text

variable {word s blanks : List Char} {c : Char}

/-! ## Words from left to right -/

theorem wordsFrom_nil (word : List Char) :
    wordsFrom word [] = if word.isEmpty then [] else [word.reverse] :=
  rfl

theorem wordsFrom_of_isBlank (h : isBlank c = true) (word s : List Char) :
    wordsFrom word (c :: s) = wordsFrom word [] ++ wordsFrom [] s := by
  rw [wordsFrom_nil, wordsFrom, if_pos h]
  split <;> rfl

theorem wordsFrom_of_not_isBlank (h : isBlank c = false) (word s : List Char) :
    wordsFrom word (c :: s) = wordsFrom (c :: word) s := by
  rw [wordsFrom, if_neg (by simp [h])]

/-- A blank divides the words in front of it from those behind it. -/
theorem wordsFrom_append (h : isBlank c = true) (word s t : List Char) :
    wordsFrom word (s ++ c :: t) = wordsFrom word s ++ wordsFrom [] t := by
  induction s generalizing word with
  | nil => exact wordsFrom_of_isBlank h word t
  | cons d s ih =>
    rw [List.cons_append]
    cases hd : isBlank d with
    | true => rw [wordsFrom_of_isBlank hd, wordsFrom_of_isBlank hd, ih, List.append_assoc]
    | false => rw [wordsFrom_of_not_isBlank hd, wordsFrom_of_not_isBlank hd, ih]

theorem wordsFrom_blanks (h : ∀ b ∈ blanks, isBlank b = true) (s : List Char) :
    wordsFrom [] (blanks ++ s) = wordsFrom [] s := by
  induction blanks with
  | nil => rfl
  | cons b blanks ih =>
    rw [List.forall_mem_cons] at h
    rw [List.cons_append, wordsFrom_of_isBlank h.1, ih h.2]
    rfl

theorem wordsFrom_run (hne : blanks ≠ []) (h : ∀ b ∈ blanks, isBlank b = true)
    (word s t : List Char) :
    wordsFrom word (s ++ (blanks ++ t)) = wordsFrom word s ++ wordsFrom [] t := by
  obtain ⟨b, blanks, rfl⟩ := List.exists_cons_of_ne_nil hne
  rw [List.forall_mem_cons] at h
  rw [List.cons_append, wordsFrom_append h.1, wordsFrom_blanks h.2]

theorem wordsFrom_eq (word s : List Char) :
    wordsFrom word s = wordsFrom ((s.takeWhile (!isBlank ·)).reverse ++ word) [] ++
      wordsFrom [] (s.dropWhile (!isBlank ·)) := by
  induction s generalizing word with
  | nil => exact (List.append_nil _).symm
  | cons c s ih =>
    cases hc : isBlank c with
    | true =>
      rw [List.takeWhile_cons_of_neg (by simp [hc]), List.dropWhile_cons_of_neg (by simp [hc]),
        wordsFrom_of_isBlank hc, wordsFrom_of_isBlank hc]
      rfl
    | false =>
      rw [List.takeWhile_cons_of_pos (by simp [hc]), List.dropWhile_cons_of_pos (by simp [hc]),
        wordsFrom_of_not_isBlank hc, ih, List.reverse_cons, List.append_assoc]
      rfl

theorem wordsFrom_eq_nil_iff : wordsFrom word s = [] ↔ word = [] ∧ ∀ c ∈ s, isBlank c = true := by
  induction s generalizing word with
  | nil => simp [wordsFrom_nil]
  | cons c s ih =>
    cases hc : isBlank c with
    | true => simp [wordsFrom_of_isBlank hc, wordsFrom_nil, ih, hc]
    | false => simp [wordsFrom_of_not_isBlank hc, ih, hc]

theorem wordsFrom_of_head? (h : s.head? = some c) (hc : isBlank c = false) :
    wordsFrom [] s = s.takeWhile (!isBlank ·) :: wordsFrom [] (s.dropWhile (!isBlank ·)) := by
  obtain ⟨rest, rfl⟩ := List.head?_eq_some_iff.mp h
  rw [wordsFrom_eq, List.takeWhile_cons_of_pos (by simp [hc])]
  simp [wordsFrom_nil]

theorem wordsFrom_of_forall (hne : s ≠ []) (h : ∀ c ∈ s, isBlank c = false) :
    wordsFrom [] s = [s] := by
  have hkept : ∀ c ∈ s, (!isBlank c) = true := by simpa using h
  obtain ⟨c, rest, rfl⟩ := List.exists_cons_of_ne_nil hne
  rw [wordsFrom_of_head? rfl (h c List.mem_cons_self), List.takeWhile_eq_self_iff.mpr hkept,
    List.dropWhile_eq_nil_iff.mpr hkept]
  rfl

/-! ## Trimming -/

theorem wordsFrom_dropWhile (s : List Char) :
    wordsFrom [] (s.dropWhile isBlank) = wordsFrom [] s := by
  conv_rhs => rw [← List.takeWhile_append_dropWhile (p := isBlank) (l := s)]
  exact (wordsFrom_blanks (fun _ => List.mem_takeWhile_imp) _).symm

theorem wordsFrom_append_blanks (h : ∀ b ∈ blanks, isBlank b = true) (s : List Char) :
    wordsFrom [] (s ++ blanks) = wordsFrom [] s := by
  by_cases hne : blanks = []
  · rw [hne, List.append_nil]
  · have hrun := wordsFrom_run hne h [] s []
    rwa [List.append_nil, wordsFrom_nil [], if_pos List.isEmpty_nil, List.append_nil] at hrun

theorem wordsFrom_trimList (s : List Char) : wordsFrom [] (trimList s) = wordsFrom [] s := by
  have hsplit : s.dropWhile isBlank =
      trimList s ++ ((s.dropWhile isBlank).reverse.takeWhile isBlank).reverse := by
    rw [trimList, stripList, ← List.reverse_append, List.takeWhile_append_dropWhile,
      List.reverse_reverse]
  have hblank : ∀ b ∈ ((s.dropWhile isBlank).reverse.takeWhile isBlank).reverse,
      isBlank b = true :=
    fun b hb => List.mem_takeWhile_imp (List.mem_reverse.mp hb)
  rw [← wordsFrom_dropWhile s, hsplit, wordsFrom_append_blanks hblank]

theorem words_trim (line : String) : words (trim line) = words line := by
  rw [words, trim, String.toList_ofList, wordsFrom_trimList, words]

/-! ## Spacing -/

/-- One change of spacing: blanks are trimmed off, or a run of blanks takes the place of another. -/
inductive Respaced : String → String → Prop
  | trim (line : String) : Respaced line (trim line)
  | run (before after : List Char) {blanks blanks' : List Char} : blanks ≠ [] → blanks' ≠ [] →
    (∀ b ∈ blanks, isBlank b = true) → (∀ b ∈ blanks', isBlank b = true) →
    Respaced (String.ofList (before ++ (blanks ++ after)))
      (String.ofList (before ++ (blanks' ++ after)))

theorem Respaced.words_eq {line line' : String} (h : Respaced line line') :
    words line' = words line := by
  cases h with
  | trim line => exact words_trim line
  | run before after hne hne' hblank hblank' =>
    rw [words, words, String.toList_ofList, String.toList_ofList, wordsFrom_run hne hblank,
      wordsFrom_run hne' hblank']

end Conformance.Text
