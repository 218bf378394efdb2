import Conformance.Proofs.Deviation.Remainder

/-!
# One line more

A further line shifts the choices of all lines behind it. At every moment the free patterns with and
without it differ by one pattern at most, and once a line finds only that pattern, it is extra where
the pattern is gone and nothing differs any more.
-/
namespace Conformance

variable {α : Type} {p : α → Bool} {xs ys : List α}

inductive IsOneMore : List α → List α → Prop where
  | here (x : α) (xs : List α) : IsOneMore xs (x :: xs)
  | cons (x : α) {xs ys : List α} : IsOneMore xs ys → IsOneMore (x :: xs) (x :: ys)

namespace IsOneMore

theorem sublist (h : IsOneMore xs ys) : xs.Sublist ys := by
  induction h with
  | here x xs => exact List.sublist_cons_self x xs
  | cons x _ ih => exact ih.cons_cons x

theorem length_eq (h : IsOneMore xs ys) : ys.length = xs.length + 1 := by
  induction h with
  | here x xs => rfl
  | cons x _ ih => rw [List.length_cons, List.length_cons, ih]

theorem map {β : Type} (f : α → β) (h : IsOneMore xs ys) : IsOneMore (xs.map f) (ys.map f) := by
  induction h with
  | here x xs => exact .here (f x) (xs.map f)
  | cons x _ ih => exact .cons (f x) ih

theorem filter (p : α → Bool) (h : IsOneMore xs ys) :
    xs.filter p = ys.filter p ∨ IsOneMore (xs.filter p) (ys.filter p) := by
  induction h with
  | here x xs =>
    cases hx : p x with
    | true =>
      rw [List.filter_cons_of_pos hx]
      exact .inr (.here x _)
    | false =>
      rw [List.filter_cons_of_neg (by simp [hx])]
      exact .inl rfl
  | @cons x xs ys _ ih =>
    cases hx : p x with
    | true =>
      rw [List.filter_cons_of_pos hx, List.filter_cons_of_pos hx]
      exact ih.imp (congrArg (x :: ·)) (.cons x)
    | false =>
      rw [List.filter_cons_of_neg (by simp [hx]), List.filter_cons_of_neg (by simp [hx])]
      exact ih

theorem of_removeFirst? (h : Audit.removeFirst? p ys = some xs) : IsOneMore xs ys := by
  induction ys generalizing xs with
  | nil => cases h
  | cons y ys ih =>
    rw [Audit.removeFirst?] at h
    split at h
    · cases h
      exact .here y ys
    · obtain ⟨rest, hrest, rfl⟩ := Option.map_eq_some_iff.mp h
      exact .cons y (ih hrest)

end IsOneMore

/-- What removing the first match makes of two lists, the second with one member more. -/
inductive RemovedBoth (xs ys : List α) : Option (List α) → Option (List α) → Prop where
  | neither : RemovedBoth xs ys none none
  | further : RemovedBoth xs ys none (some xs)
  | both {xs' ys' : List α} : IsOneMore xs' ys' → RemovedBoth xs ys (some xs') (some ys')

theorem IsOneMore.removedBoth (h : IsOneMore xs ys) (p : α → Bool) :
    RemovedBoth xs ys (Audit.removeFirst? p xs) (Audit.removeFirst? p ys) := by
  induction h with
  | here x xs =>
    cases hx : p x <;> cases hxs : Audit.removeFirst? p xs <;>
      simp only [Audit.removeFirst?, hx, hxs, if_true, Bool.false_eq_true, if_false,
        Option.map_none, Option.map_some]
    · exact .neither
    · exact .both (.here x _)
    · exact .further
    · exact .both (.of_removeFirst? hxs)
  | @cons x xs ys h ih =>
    simp only [Audit.removeFirst?]
    cases hx : p x with
    | true => exact .both h
    | false =>
      simp only [Bool.false_eq_true, if_false]
      generalize Audit.removeFirst? p xs = fewer at ih ⊢
      generalize Audit.removeFirst? p ys = fewer' at ih ⊢
      cases ih with
      | neither => exact .neither
      | further => exact .further
      | both h => exact .both (.cons x h)

namespace Remainder

variable {free free' : PatternSet} {r r' : Remainder}

/-- The second remainder has one line more or one pattern less. -/
inductive Shifts (r r' : Remainder) : Prop where
  | oneLineMore : r.free = r'.free → IsOneMore r.lines r'.lines → Shifts r r'
  | onePatternLess : IsOneMore r'.free r.free → r.lines = r'.lines → Shifts r r'

theorem Shifts.cons (h : Shifts r r') (line : String) :
    Shifts ⟨r.free, line :: r.lines⟩ ⟨r'.free, line :: r'.lines⟩ := by
  cases h with
  | oneLineMore hfree hlines => exact .oneLineMore hfree (.cons line hlines)
  | onePatternLess hfree hlines => exact .onePatternLess hfree (congrArg (line :: ·) hlines)

/-- Where one pattern is gone, there is one line more or one pattern less in the end. -/
theorem shifts_of_isOneMore (h : IsOneMore free' free) (commands : List String) :
    Shifts (of free commands) (of free' commands) := by
  induction commands generalizing free free' with
  | nil => exact .onePatternLess h rfl
  | cons line rest ih =>
    have hremoved := h.removedBoth (·.isMatch line)
    generalize hfree' : Audit.removeFirst? (·.isMatch line) free' = fewer' at hremoved
    generalize hfree : Audit.removeFirst? (·.isMatch line) free = fewer at hremoved
    cases hremoved with
    | neither =>
      rw [of_cons_none hfree, of_cons_none hfree']
      exact (ih h).cons line
    | further =>
      rw [of_cons_some hfree, of_cons_none hfree']
      exact .oneLineMore rfl (.here line _)
    | both h' =>
      rw [of_cons_some hfree, of_cons_some hfree']
      exact ih h'

theorem shifts_insert (free : PatternSet) (before : List String) (line : String)
    (after : List String) :
    Shifts (of free (before ++ after)) (of free (before ++ line :: after)) := by
  induction before generalizing free with
  | nil =>
    cases h : Audit.removeFirst? (·.isMatch line) free with
    | some fewer =>
      rw [List.nil_append, List.nil_append, of_cons_some h]
      exact shifts_of_isOneMore (.of_removeFirst? h) after
    | none =>
      rw [List.nil_append, List.nil_append, of_cons_none h]
      exact .oneLineMore rfl (.here line _)
  | cons first rest ih =>
    cases h : Audit.removeFirst? (·.isMatch first) free with
    | some fewer =>
      rw [List.cons_append, List.cons_append, of_cons_some h, of_cons_some h]
      exact ih fewer
    | none =>
      rw [List.cons_append, List.cons_append, of_cons_none h, of_cons_none h]
      exact (ih free).cons first

/-- A line that is no command changes nothing, and any other shifts what is left over. -/
theorem eq_or_shifts_commandLines (mandatory : PatternSet) (before : List String) (line : String)
    (after : List String) :
    of mandatory (commandLines (before ++ after)) =
        of mandatory (commandLines (before ++ line :: after)) ∨
      Shifts (of mandatory (commandLines (before ++ after)))
        (of mandatory (commandLines (before ++ line :: after))) := by
  rw [commandLines_append, commandLines_append, commandLines_cons]
  split
  · exact .inr (shifts_insert mandatory _ _ _)
  · exact .inl rfl

end Remainder

/-- One line more in a configuration makes at most one pattern less missing or one line more extra,
and nothing else of the report changes. -/
theorem findDeviations_insert (mandatory optional : PatternSet) (before : List String)
    (line : String) (after : List String) :
    let without := findDeviations mandatory optional (before ++ after)
    let inserted := findDeviations mandatory optional (before ++ line :: after)
    inserted.missing.Sublist without.missing ∧ without.extra.Sublist inserted.extra ∧
      (without.missing.length - inserted.missing.length) +
        (inserted.extra.length - without.extra.length) ≤ 1 := by
  dsimp only
  rw [findDeviations_eq_ofLines, findDeviations_eq_ofLines]
  simp only [DeviationReport.ofLines]
  rcases Remainder.eq_or_shifts_commandLines mandatory before line after with heq | hshifts
  · rw [heq]
    exact ⟨List.Sublist.refl _, List.Sublist.refl _, by omega⟩
  · cases hshifts with
    | oneLineMore hfree hlines =>
      rw [hfree]
      rcases hlines.filter (!optional.anyMatch ·) with heq | hmore
      · rw [heq]
        exact ⟨List.Sublist.refl _, List.Sublist.refl _, by omega⟩
      · have hlength := hmore.length_eq
        exact ⟨List.Sublist.refl _, hmore.sublist, by omega⟩
    | onePatternLess hfree hlines =>
      have hmissing := hfree.map Pattern.render
      have hlength := hmissing.length_eq
      rw [hlines]
      exact ⟨hmissing.sublist, List.Sublist.refl _, by omega⟩

end Conformance
