import Conformance.Files.Path
import Mathlib.Data.List.Basic

/-!
# Paths to names

Joining a name to a path adds one step to the steps of the path.
-/
namespace Conformance

namespace Text

variable {mark : Char}

theorem split_cons_self (s : List Char) : split mark (mark :: s) = [] :: split mark s := by
  simp [split]

theorem split_cons_of_ne {c : Char} (h : c ≠ mark) (s : List Char) :
    split mark (c :: s) = (c :: (split mark s).head (List.cons_ne_nil _ _)) :: (split mark s).tail := by
  simp [split, h]

theorem split_append (xs ys : List Char) :
    split mark (xs ++ mark :: ys) = split mark xs ++ split mark ys := by
  induction xs with
  | nil => exact split_cons_self ys
  | cons c xs ih =>
    by_cases hc : c = mark
    · subst hc
      rw [List.cons_append, split_cons_self, split_cons_self, ih, List.cons_append]
    · rw [List.cons_append, split_cons_of_ne hc, split_cons_of_ne hc]
      simp only [ih]
      rfl

theorem split_of_not_mem {s : List Char} (h : mark ∉ s) : split mark s = [s] := by
  induction s with
  | nil => rfl
  | cons c s ih =>
    rw [List.mem_cons, not_or] at h
    rw [split_cons_of_ne (Ne.symm h.1)]
    simp [ih h.2]

theorem not_mem_of_mem_split {s part : List Char} (h : part ∈ split mark s) : mark ∉ part := by
  induction s generalizing part with
  | nil =>
    rw [List.mem_singleton.mp h]
    exact List.not_mem_nil
  | cons c s ih =>
    by_cases hc : c = mark
    · subst hc
      rw [split_cons_self] at h
      rcases List.mem_cons.mp h with rfl | h
      · exact List.not_mem_nil
      · exact ih h
    · rw [split_cons_of_ne hc] at h
      rcases List.mem_cons.mp h with rfl | h
      · rw [List.mem_cons, not_or]
        exact ⟨Ne.symm hc, ih (List.head_mem _)⟩
      · exact ih (List.mem_of_mem_tail h)

end Text

namespace Path

variable {base : Path} {name : String}

theorem IsName.toList_ne_nil (h : IsName name) : name.toList ≠ [] := by
  intro hnil
  exact h.ne_empty (String.toList_eq_nil_iff.mp hnil)

theorem isAbsolute_of_not_mem (h : '/' ∉ name.toList) : isAbsolute name = false := by
  unfold isAbsolute
  cases hname : name.toList with
  | nil => rfl
  | cons c s =>
    rw [hname, List.mem_cons, not_or] at h
    simpa using Ne.symm h.1

theorem IsName.isRelative (h : IsName name) : isAbsolute name = false :=
  isAbsolute_of_not_mem h.slash_not_mem

theorem isName_of_mem_steps {p : Path} {step : String} (h : step ∈ p.steps) (hhere : step ≠ ".")
    (hup : step ≠ "..") : IsName step := by
  obtain ⟨part, hpart, rfl⟩ := List.mem_map.mp h
  obtain ⟨hsplit, hempty⟩ := List.mem_filter.mp hpart
  refine ⟨?_, ?_, hhere, hup⟩
  · rw [String.toList_ofList]
    exact Text.not_mem_of_mem_split hsplit
  · intro hnil
    have hlist := congrArg String.toList hnil
    rw [String.toList_ofList] at hlist
    subst hlist
    cases hempty

theorem join_cases (hbase : base ≠ "") (hrel : isAbsolute name = false) :
    (∃ front, base.toList = front ++ ['/'] ∧ (join base name).toList = front ++ '/' :: name.toList) ∨
      (join base name).toList = base.toList ++ '/' :: name.toList := by
  have hempty : base.isEmpty = false := by simpa using hbase
  rw [join, hrel, hempty, Bool.or_self, if_neg Bool.false_ne_true]
  split
  · next hslash =>
    rw [beq_iff_eq, List.getLast?_eq_some_iff] at hslash
    obtain ⟨front, hfront⟩ := hslash
    refine .inl ⟨front, hfront, ?_⟩
    rw [String.toList_append, hfront, List.append_assoc]
    rfl
  · refine .inr ?_
    rw [String.toList_append, String.toList_append, List.append_assoc]
    rfl

/-- What stands before a relative path in a joined one does not depend on it. -/
theorem exists_join_eq (base : Path) :
    ∃ mark, ∀ rel, isAbsolute rel = false → join base rel = base ++ mark ++ rel := by
  by_cases hbase : base = ""
  · exact ⟨"", fun rel _ => by rw [hbase, join, if_pos (by simp), String.append_empty,
      String.empty_append]⟩
  · have hempty : base.isEmpty = false := by simpa using hbase
    by_cases hslash : (base.toList.getLast? == some '/') = true
    · refine ⟨"", fun rel hrel => ?_⟩
      rw [join, hrel, hempty, Bool.or_self, if_neg Bool.false_ne_true, if_pos hslash,
        String.append_empty]
    · refine ⟨"/", fun rel hrel => ?_⟩
      rw [join, hrel, hempty, Bool.or_self, if_neg Bool.false_ne_true, if_neg hslash]

theorem steps_of_toList {p : Path} {front s : List Char} (hp : p.toList = front ++ '/' :: s) :
    p.steps = steps (String.ofList front) ++
      ((Text.split '/' s).filter (!·.isEmpty)).map String.ofList := by
  rw [steps, steps, hp, String.toList_ofList, Text.split_append, List.filter_append, List.map_append]

theorem steps_of_isName (hname : IsName name) : steps name = [name] := by
  rw [steps, Text.split_of_not_mem hname.slash_not_mem]
  simp [hname.toList_ne_nil]

theorem join_of_empty (p : Path) : join "" p = p :=
  if_pos (by simp)

theorem steps_join_of_relative (hrel : isAbsolute name = false) (base : Path) :
    (join base name).steps = base.steps ++ steps name := by
  by_cases hbase : base = ""
  · rw [hbase, join_of_empty]
    rfl
  · rcases join_cases hbase hrel with ⟨front, hbase', hjoin⟩ | hjoin
    · have hfront : steps base = steps (String.ofList front) := by
        rw [steps_of_toList hbase']
        simp [Text.split]
      rw [steps_of_toList hjoin, hfront]
      rfl
    · rw [steps_of_toList hjoin, String.ofList_toList]
      rfl

theorem steps_join (hname : IsName name) (base : Path) :
    (join base name).steps = base.steps ++ [name] := by
  rw [steps_join_of_relative hname.isRelative, steps_of_isName hname]

theorem join_ne_empty (hname : IsName name) (p : Path) : p.join name ≠ "" := by
  intro hempty
  have hsteps := steps_join hname p
  rw [hempty] at hsteps
  exact List.append_ne_nil_of_right_ne_nil p.steps (List.cons_ne_nil name []) hsteps.symm

theorem mem_steps_join (hname : '/' ∉ name.toList) {step : String}
    (h : step ∈ (join base name).steps) : step ∈ base.steps ∨ step = name := by
  have hsplit : ∀ s ∈ steps name, s = name := by
    rw [steps, Text.split_of_not_mem hname]
    simp
  rw [steps_join_of_relative (isAbsolute_of_not_mem hname), List.mem_append] at h
  exact h.imp id (hsplit step)

theorem isAbsolute_join (hbase : base ≠ "") (hrel : isAbsolute name = false) :
    isAbsolute (join base name) = isAbsolute base := by
  have hne : base.toList ≠ [] := by simpa using hbase
  rcases join_cases hbase hrel with ⟨front, hbase', hjoin⟩ | hjoin
  · rw [isAbsolute, isAbsolute, hbase', hjoin]
    cases front <;> rfl
  · rw [isAbsolute, isAbsolute, hjoin, List.head?_append_of_ne_nil _ hne]

theorem endsInSlash_join (hbase : base ≠ "") (hname : IsName name) :
    endsInSlash (join base name) = false := by
  have hlast : ∀ front : List Char,
      (front ++ '/' :: name.toList).getLast? = some (name.toList.getLast hname.toList_ne_nil) := by
    intro front
    rw [List.getLast?_append, List.getLast?_cons, List.getLast?_eq_some_getLast hname.toList_ne_nil]
    rfl
  have hne : name.toList.getLast hname.toList_ne_nil ≠ '/' := by
    intro heq
    exact hname.slash_not_mem (heq ▸ List.getLast_mem _)
  unfold endsInSlash
  rcases join_cases hbase hname.isRelative with ⟨front, -, hjoin⟩ | hjoin
  all_goals
    rw [hjoin, hlast]
    simpa using hne

end Path
end Conformance
