import Conformance.Proofs.Regex.Class

/-!
# Stricter flags

Verbose notation aside, flags change what a text means, but not how far a reader goes in it: where
Unicode is off, the reader may only refuse what it reads where Unicode is on.
-/
namespace Conformance.Regex

open Conformance.Except (Follows)

variable {f g : Flags} {k l : OpenClass} {ks ls : List OpenClass} {a b : Atom} {α β : Type}

namespace Flags

/-- What can be read under the flags `f` can be read under `g`, in the same steps. -/
structure IsStricter (f g : Flags) : Prop where
  verbose : f.verbose = g.verbose
  unicode : f.unicode = true → g.unicode = true

theorem isStricter_default (h : f.verbose = false) : f.IsStricter {} :=
  ⟨h, fun _ => rfl⟩

theorem IsStricter.skip (h : f.IsStricter g) (s : List Char) : f.skip s = g.skip s := by
  rw [Flags.skip, Flags.skip, h.verbose]

end Flags

/-! ## Lengths -/

theorem takeDigits_of_isStricter (h : f.IsStricter g) (s : List Char) :
    takeDigits f s = takeDigits g s := by
  fun_induction takeDigits f s with
  | case1 => rw [takeDigits]
  | case2 c rest hdigit digits left heq ih =>
    rw [takeDigits, if_pos hdigit, ← h.skip, ← ih, heq]
  | case3 c rest hdigit => rw [takeDigits, if_neg hdigit]

theorem readCount_of_isStricter (h : f.IsStricter g) (s : List Char) :
    readCount f s = readCount g s := by
  simp only [readCount, takeDigits_of_isStricter h, h.skip]

theorem takeBraced_of_isStricter (h : f.IsStricter g) (s : List Char) :
    takeBraced f s = takeBraced g s := by
  fun_induction takeBraced f s with
  | case1 => rw [takeBraced]
  | case2 c rest hbrace => rw [takeBraced, if_pos hbrace]
  | case3 c rest hbrace ih => rw [takeBraced, if_neg hbrace, ← h.skip, ih]

theorem takeHex_of_isStricter (h : f.IsStricter g) (n : Nat) (s : List Char) :
    takeHex f n s = takeHex g n s := by
  fun_induction takeHex f n s with
  | case1 => rw [takeHex]
  | case2 => rw [takeHex]
  | case3 n c s hdigit ih => rw [takeHex, if_pos hdigit, ← h.skip, ih]
  | case4 n c s hdigit => rw [takeHex, if_neg hdigit]

theorem takeCode_of_isStricter (h : f.IsStricter g) (width : Nat) (s : List Char) :
    takeCode f width s = takeCode g width s := by
  simp only [takeCode, h.skip, takeBraced_of_isStricter h, takeHex_of_isStricter h]

theorem takePropertyName_of_isStricter (h : f.IsStricter g) (s : List Char) :
    takePropertyName f s = takePropertyName g s := by
  simp only [takePropertyName, h.skip, takeBraced_of_isStricter h]

theorem readWordEdge_of_isStricter (h : f.IsStricter g) (s : List Char) :
    readWordEdge f s = readWordEdge g s := by
  simp only [readWordEdge, h.skip, takeBraced_of_isStricter h]

theorem hyphens_of_isStricter (h : f.IsStricter g) (n : Nat) (s : List Char) :
    hyphens f n s = hyphens g n s := by
  fun_induction hyphens f n s with
  | case1 n s k rest heq ih => rw [hyphens, ← h.skip, ← ih, heq]
  | case2 n s hs => rw [hyphens]; exact hs

theorem openClass_of_isStricter (h : f.IsStricter g) (s : List Char) :
    openClass f s = openClass g s := by
  simp only [openClass, openMembers, h.skip, hyphens_of_isStricter h]

theorem peekPast_of_isStricter (h : f.IsStricter g) (s : List Char) :
    peekPast f s = peekPast g s := by
  simp only [peekPast, h.verbose]

/-! ## Atoms -/

def Beside (R : α → β → Prop) (x : α × List Char) (y : β × List Char) : Prop :=
  R x.1 y.1 ∧ x.2 = y.2

/-- Atoms of one kind, and characters only if they are the same. -/
inductive Atom.IsLike : Atom → Atom → Prop where
  | char (c : Char) : IsLike (.char c) (.char c)
  | set (a b : CharSet) : IsLike (.set a) (.set b)
  | look (a b : Look) : IsLike (.look a) (.look b)

theorem memberChar_follows (h : f.IsStricter g) (c : Char) :
    Follows (fun _ _ => True) (memberChar f c) (memberChar g c) := by
  unfold memberChar
  split
  · exact .error
  · next hf =>
    rw [if_neg]
    · exact .ok trivial
    · simp only [Bool.and_eq_true, Bool.not_eq_true', not_and_or, Bool.not_eq_false] at hf ⊢
      exact hf.imp_left h.unicode

theorem charOfDigits_follows (h : f.IsStricter g) (digits : List Char) (isByte : Bool) :
    Follows Eq (charOfDigits f digits isByte) (charOfDigits g digits isByte) := by
  unfold charOfDigits
  split
  · exact .error
  · split
    · exact .error
    · next c _ =>
      split
      · exact .error
      · next hf =>
        rw [if_neg]
        · exact .ok rfl
        · simp only [Bool.and_eq_true, Bool.not_eq_true', not_and_or, Bool.not_eq_false] at hf ⊢
          exact hf.imp_left (Or.imp_right h.unicode)

theorem adjust_follows (h : f.IsStricter g) (negated : Bool) (a b : CharSet) :
    Follows (fun _ _ => True) (adjust f negated a) (adjust g negated b) := by
  unfold adjust
  by_cases hf : f.unicode = true
  · rw [if_pos hf, if_pos (h.unicode hf)]
    exact .ok trivial
  · rw [if_neg hf]
    split
    · exact .error
    · next hnegated =>
      by_cases hg : g.unicode = true
      · rw [if_pos hg]
        exact .ok trivial
      · rw [if_neg hg]
        exact .ok trivial

theorem propertySet_follows (h : f.IsStricter g) (negated : Bool) (name : List Char) :
    Follows (fun _ _ => True) (propertySet f negated name) (propertySet g negated name) := by
  unfold propertySet
  split
  · exact .error
  · next hf =>
    rw [if_neg (by simpa using h.unicode (by simpa using hf))]
    split
    · exact .error
    · exact adjust_follows h negated _ _

theorem shorthand_follows (h : f.IsStricter g) (c : Char) :
    Follows (fun _ _ => True) (shorthand f c) (shorthand g c) := by
  unfold shorthand
  dsimp only
  split
  · split
    · next hf =>
      rw [if_pos (h.unicode hf)]
      exact .ok trivial
    · exact .error
  · exact .ok trivial

theorem escaped_follows (h : f.IsStricter g) (c : Char) :
    Follows Atom.IsLike (escaped f c) (escaped g c) := by
  have hset : Follows Atom.IsLike (do return .set (← shorthand f c))
      (do return .set (← shorthand g c)) :=
    (shorthand_follows h c).bind fun a b _ => .ok (.set a b)
  unfold escaped
  dsimp only
  split
  iterate 6 exact hset
  iterate 6 exact .ok (.char _)
  iterate 5 exact .ok (.look _ _)
  split
  · exact .ok (.char _)
  · exact .error

theorem readCode_follows (h : f.IsStricter g) (width : Nat) (s : List Char) :
    Follows (Beside Atom.IsLike) (readCode f width s) (readCode g width s) := by
  unfold readCode
  rw [takeCode_of_isStricter h]
  cases takeCode g width s with
  | error fault => exact .error
  | ok found =>
    obtain ⟨⟨digits, isByte⟩, rest⟩ := found
    refine (charOfDigits_follows h digits isByte).bind ?_
    rintro c _ rfl
    exact .ok ⟨.char c, h.skip rest⟩

theorem readProperty_follows (h : f.IsStricter g) (negated : Bool) (s : List Char) :
    Follows (Beside Atom.IsLike) (readProperty f negated s) (readProperty g negated s) := by
  unfold readProperty
  rw [takePropertyName_of_isStricter h]
  cases takePropertyName g s with
  | error fault => exact .error
  | ok found =>
    exact (propertySet_follows h negated found.1).bind fun a b _ => .ok ⟨.set a b, rfl⟩

theorem readEscape_follows (h : f.IsStricter g) (s : List Char) :
    Follows (Beside Atom.IsLike) (readEscape f s) (readEscape g s) := by
  unfold readEscape
  split
  · exact .error
  · exact readCode_follows h 2 _
  · exact readCode_follows h 4 _
  · exact readCode_follows h 8 _
  · exact readProperty_follows h false _
  · exact readProperty_follows h true _
  · rw [readWordEdge_of_isStricter h]
    cases readWordEdge g _ with
    | error fault => exact .error
    | ok found => exact .ok ⟨.look _ _, rfl⟩
  · exact (escaped_follows h _).bind fun a b hab => .ok ⟨hab, rfl⟩

/-! ## Classes -/

theorem readItem_follows (h : f.IsStricter g) (s : List Char) :
    Follows (Beside Atom.IsLike) (readItem f s) (readItem g s) := by
  unfold readItem
  split
  · exact .error
  · exact readEscape_follows h _
  · exact .ok ⟨.char _, rfl⟩

theorem memberSet_follows (h : f.IsStricter g) (hab : a.IsLike b) :
    Follows (fun _ _ => True) (memberSet f a) (memberSet g b) := by
  cases hab with
  | char c => exact (memberChar_follows h c).bind fun _ _ _ => .ok trivial
  | set => exact .ok trivial
  | look => exact .error

theorem rangeSet_follows {c d : Atom} (h : f.IsStricter g) (hab : a.IsLike b)
    (hcd : c.IsLike d) : Follows (fun _ _ => True) (rangeSet f a c) (rangeSet g b d) := by
  cases hab with
  | set | look => exact .error
  | char a =>
    cases hcd with
    | set | look => exact .error
    | char c =>
      refine (memberChar_follows h a).bind fun _ _ _ => ?_
      refine (memberChar_follows h c).bind fun _ _ _ => ?_
      split
      · exact .ok trivial
      · exact .error

theorem readRange_follows (h : f.IsStricter g) (hab : a.IsLike b) (s : List Char) :
    Follows (Beside fun _ _ => True) (readRange f a s) (readRange g b s) := by
  unfold readRange
  rw [h.skip]
  split
  · exact .error
  · next c after _ =>
    simp only [peekPast_of_isStricter h, h.skip]
    split
    · exact (memberSet_follows h hab).bind fun _ _ _ => .ok ⟨trivial, rfl⟩
    · refine (readItem_follows h _).bind ?_
      rintro ⟨last, rest⟩ ⟨last', _⟩ ⟨hlast, rfl⟩
      exact (rangeSet_follows h hab hlast).bind fun _ _ _ => .ok ⟨trivial, rfl⟩

theorem readMember_follows (h : f.IsStricter g) (s : List Char) :
    Follows (Beside fun _ _ => True) (readMember f s) (readMember g s) := by
  refine (readItem_follows h s).bind ?_
  rintro ⟨first, rest⟩ ⟨first', _⟩ ⟨hfirst, rfl⟩
  exact readRange_follows h hfirst rest

def OpenClass.IsLike (k l : OpenClass) : Prop :=
  k.negated = l.negated

/-- Readings within equally many open classes, or at the end of the outermost. -/
inductive ClassReading.IsLike : ClassReading → ClassReading → Prop where
  | within {k l : OpenClass} {ks ls : List OpenClass} : k.IsLike l →
    List.Forall₂ OpenClass.IsLike ks ls → IsLike (.within k ks) (.within l ls)
  | done (a b : CharSet) (m n : Nat) : IsLike (.done a m) (.done b n)

theorem readOn_follows (h : f.IsStricter g) (hk : k.IsLike l)
    (hks : List.Forall₂ OpenClass.IsLike ks ls) (c : Char) (s : List Char) :
    Follows (Beside ClassReading.IsLike) (readOn f k ks c s) (readOn g l ls c s) := by
  unfold readOn
  split
  · split
    · exact (adjust_follows h _ _ _).bind fun _ _ _ => .ok ⟨.within hk hks, rfl⟩
    · rw [openClass_of_isStricter h]
      exact .ok ⟨.within rfl (.cons hk hks), rfl⟩
  split
  · rw [show k.negated = l.negated from hk]
    refine (adjust_follows h _ _ _).bind fun _ _ _ => ?_
    cases hks with
    | nil => exact .ok ⟨.done _ _ _ _, rfl⟩
    | cons hfirst hrest => exact .ok ⟨.within hfirst hrest, rfl⟩
  split
  · exact .ok ⟨.within hk hks, rfl⟩
  split
  · exact .ok ⟨.within hk hks, rfl⟩
  split
  · exact .ok ⟨.within hk hks, rfl⟩
  · refine (readMember_follows h _).bind ?_
    rintro ⟨set, rest⟩ ⟨set', _⟩ ⟨-, rfl⟩
    exact .ok ⟨.within hk hks, rfl⟩

theorem readMembers_follows (h : f.IsStricter g) (hk : k.IsLike l)
    (hks : List.Forall₂ OpenClass.IsLike ks ls) (s : List Char) :
    Follows (fun x y => x.2.2 = y.2.2) (readMembers f k ks s) (readMembers g l ls s) := by
  induction hlength : s.length using Nat.strongRecOn generalizing s k l ks ls with
  | _ n ih =>
    have hshort := f.length_skip s
    rw [readMembers_eq, readMembers_eq, ← h.skip]
    split
    · exact .error
    · next c t heq =>
      rw [heq, List.length_cons] at hshort
      refine (readOn_follows h hk hks c t).bind ?_
      rintro ⟨reading, left⟩ ⟨reading', _⟩ ⟨hreading, rfl⟩
      cases hreading with
      | done => exact .ok rfl
      | within hk hks =>
        dsimp only
        split
        · exact ih left.length (by omega) hk hks left rfl
        · exact .error

theorem readClass_follows (h : f.IsStricter g) (s : List Char) :
    Follows (fun x y => x.2.2 = y.2.2) (readClass f s) (readClass g s) := by
  unfold readClass
  rw [openClass_of_isStricter h]
  exact readMembers_follows h (show _ = _ from rfl) .nil _

end Conformance.Regex
