import Conformance.Text.Blank
import Mathlib.Data.List.Basic
import Mathlib.Data.List.TakeWhile

/-!
# Trimming

Trimmed text begins and ends with characters that are kept, and such text is kept as it is. No
character that is to be kept is lost.
-/
namespace Conformance.Text

variable {p : Char → Bool} {s : List Char} {c : Char}

theorem head?_dropWhile (h : (s.dropWhile p).head? = some c) : p c = false := by
  induction s with
  | nil => cases h
  | cons d s ih =>
    rw [List.dropWhile_cons] at h
    split at h
    · exact ih h
    · next hd =>
      obtain rfl := Option.some.inj h
      exact Bool.eq_false_iff.mpr hd

theorem dropWhile_of_head? (h : ∀ c, s.head? = some c → p c = false) : s.dropWhile p = s := by
  cases s with
  | nil => rfl
  | cons d s => exact List.dropWhile_cons_of_neg (by simp [h d rfl])

theorem mem_dropWhile (hc : p c = false) (h : c ∈ s) : c ∈ s.dropWhile p := by
  rw [← List.takeWhile_append_dropWhile (p := p) (l := s), List.mem_append] at h
  rcases h with h | h
  · rw [List.mem_takeWhile_imp h] at hc
    cases hc
  · exact h

theorem mem_stripList (hc : p c = false) (h : c ∈ s) : c ∈ stripList p s := by
  rw [stripList, List.mem_reverse]
  exact mem_dropWhile hc (List.mem_reverse.mpr (mem_dropWhile hc h))

theorem stripList_isPrefix (p : Char → Bool) (s : List Char) : stripList p s <+: s.dropWhile p := by
  rw [stripList, ← List.reverse_suffix, List.reverse_reverse]
  exact List.dropWhile_suffix p

/-- Nothing is cut off behind the first character that is kept. -/
theorem head?_stripList_eq (p : Char → Bool) (s : List Char) :
    (stripList p s).head? = (s.dropWhile p).head? := by
  rw [stripList]
  cases hdrop : s.dropWhile p with
  | nil => rfl
  | cons c rest =>
    have hc : p c = false := head?_dropWhile (congrArg List.head? hdrop)
    rw [List.reverse_cons, List.dropWhile_append]
    split
    · simp [hc]
    · simp

theorem head?_stripList (hc : p c = false) (h : s.head? = some c) :
    (stripList p s).head? = some c := by
  have hkept : s.dropWhile p = s := by
    refine dropWhile_of_head? fun d hd => ?_
    obtain rfl := Option.some.inj (h.symm.trans hd)
    exact hc
  rw [head?_stripList_eq, hkept, h]

theorem not_head?_stripList (h : (stripList p s).head? = some c) : p c = false :=
  head?_dropWhile ((head?_stripList_eq p s).symm.trans h)

theorem not_getLast?_stripList (h : (stripList p s).getLast? = some c) : p c = false := by
  rw [stripList, List.getLast?_reverse] at h
  exact head?_dropWhile h

theorem stripList_eq_self (hhead : ∀ c, s.head? = some c → p c = false)
    (hlast : ∀ c, s.getLast? = some c → p c = false) : stripList p s = s := by
  have hreverse : s.reverse.dropWhile p = s.reverse :=
    dropWhile_of_head? fun c hc => hlast c (by rwa [List.head?_reverse] at hc)
  rw [stripList, dropWhile_of_head? hhead, hreverse, List.reverse_reverse]

theorem stripList_isInfix (p : Char → Bool) (s : List Char) : stripList p s <:+: s :=
  (stripList_isPrefix p s).isInfix.trans (List.dropWhile_suffix p).isInfix

theorem stripList_cons (h : p c = true) (s : List Char) : stripList p (c :: s) = stripList p s := by
  rw [stripList, List.dropWhile_cons_of_pos h, stripList]

theorem stripList_concat (h : p c = true) (s : List Char) :
    stripList p (s ++ [c]) = stripList p s := by
  have hdrop : (s ++ [c]).dropWhile p =
      if s.dropWhile p = [] then [] else s.dropWhile p ++ [c] := by
    rw [List.dropWhile_append]
    simp [h]
  rw [stripList, hdrop, stripList]
  split
  · next hnil => rw [hnil]
  · rw [List.reverse_append, List.reverse_singleton, List.singleton_append,
      List.dropWhile_cons_of_pos h]

theorem trimList_trimList (s : List Char) : trimList (trimList s) = trimList s :=
  stripList_eq_self (fun _ => not_head?_stripList) (fun _ => not_getLast?_stripList)

theorem trim_trim (line : String) : trim (trim line) = trim line := by
  rw [trim, trim, String.toList_ofList, trimList_trimList]

theorem trim_cons (h : isBlank c = true) (t : String) :
    trim (String.singleton c ++ t) = trim t := by
  rw [trim, String.toList_append, String.toList_singleton, trim]
  exact congrArg String.ofList (stripList_cons h t.toList)

theorem trim_push (h : isBlank c = true) (t : String) :
    trim (t ++ String.singleton c) = trim t := by
  rw [trim, String.toList_append, String.toList_singleton, trim]
  exact congrArg String.ofList (stripList_concat h t.toList)

theorem isSpaceOrTab_of_isBlank (h : isBlank c = false) : isSpaceOrTab c = false := by
  refine Bool.eq_false_iff.mpr fun hspace => ?_
  rw [isSpaceOrTab, Bool.or_eq_true, beq_iff_eq, beq_iff_eq] at hspace
  rcases hspace with rfl | rfl <;> exact absurd h (by decide)

theorem trimSpaces_trim (line : String) : trimSpaces (trim line) = trim line := by
  have hstrip : stripList isSpaceOrTab (trimList line.toList) = trimList line.toList :=
    stripList_eq_self (fun _ hc => isSpaceOrTab_of_isBlank (not_head?_stripList hc))
      (fun _ hc => isSpaceOrTab_of_isBlank (not_getLast?_stripList hc))
  rw [trimSpaces, trim, String.toList_ofList, hstrip]

end Conformance.Text
