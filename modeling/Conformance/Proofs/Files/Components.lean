import Conformance.Proofs.Files.Overlong
import Conformance.Proofs.Files.Route

/-!
# Components of paths

Paths are compared by their components: what they start from, if they say so, and then the steps that
lead somewhere. Extra slashes and steps to where one is make no difference to where a path leads.
-/
namespace Conformance

theorem Text.head_split_prefix (mark : Char) (s : List Char) :
    (split mark s).head (List.cons_ne_nil _ _) <+: s := by
  induction s with
  | nil => exact List.prefix_rfl
  | cons c s ih =>
    by_cases hc : c = mark
    · subst hc
      simp only [split_cons_self, List.head_cons]
      exact List.nil_prefix
    · simp only [split_cons_of_ne hc, List.head_cons]
      exact List.cons_prefix_cons.mpr ⟨rfl, ih⟩

theorem Text.infix_of_mem_split {mark : Char} {s part : List Char} (h : part ∈ split mark s) :
    part <:+: s := by
  induction s generalizing part with
  | nil =>
    obtain rfl := List.mem_singleton.mp h
    exact List.infix_rfl
  | cons c s ih =>
    by_cases hc : c = mark
    · subst hc
      rw [split_cons_self] at h
      rcases List.mem_cons.mp h with rfl | h
      · exact (List.nil_prefix).isInfix
      · exact List.infix_cons (ih h)
    · have hhead := head_split_prefix mark (c :: s)
      simp only [split_cons_of_ne hc, List.head_cons] at hhead
      rw [split_cons_of_ne hc] at h
      rcases List.mem_cons.mp h with rfl | h
      · exact hhead.isInfix
      · exact List.infix_cons (ih (List.mem_of_mem_tail h))

namespace Path

variable {base p rel : Path} {name step : String} {rest : List String}

theorem mem_origin (h : step ∈ p.origin) : step = "/" ∨ step = "." := by
  rw [origin] at h
  split at h
  · exact .inl (List.mem_singleton.mp h)
  · split at h
    · exact .inr (List.mem_singleton.mp h)
    · cases h

theorem mem_moves : step ∈ p.moves ↔ step ∈ p.steps ∧ step ≠ "." := by
  rw [moves, List.mem_filter, bne_iff_ne]

theorem not_mem_steps_of_slash (h : '/' ∈ step.toList) : step ∉ p.steps := by
  intro hstep
  obtain ⟨part, hpart, rfl⟩ := List.mem_map.mp hstep
  rw [String.toList_ofList] at h
  exact Text.not_mem_of_mem_split (List.mem_filter.mp hpart).1 h

theorem ne_origin_of_mem_moves (h : step ∈ p.moves) : step ≠ "/" ∧ step ≠ "." := by
  obtain ⟨hstep, hhere⟩ := mem_moves.mp h
  refine ⟨?_, hhere⟩
  rintro rfl
  exact not_mem_steps_of_slash (by decide) hstep

theorem IsName.ne_root (hname : IsName name) : name ≠ "/" := by
  rintro rfl
  exact hname.slash_not_mem (by decide)

theorem moves_of_isName (hname : IsName name) : moves name = [name] := by
  rw [moves, steps_of_isName hname]
  exact List.filter_cons_of_pos (by simpa using hname.ne_here)

theorem origin_of_isName (hname : IsName name) : origin name = [] := by
  rw [origin, hname.isRelative, if_neg Bool.false_ne_true, steps_of_isName hname,
    if_neg (by simpa using hname.ne_here)]

/-! ## Joining -/

theorem steps_ne_nil (hbase : base ≠ "") (hrel : base.isAbsolute = false) : base.steps ≠ [] := by
  rw [steps]
  cases hlist : base.toList with
  | nil => exact absurd (String.toList_eq_nil_iff.mp hlist) hbase
  | cons c s =>
    have hc : c ≠ '/' := by
      rintro rfl
      simp [isAbsolute, hlist] at hrel
    rw [Text.split_cons_of_ne hc, List.filter_cons_of_pos (by rfl)]
    exact List.cons_ne_nil _ _

section Join
variable (hrel : isAbsolute rel = false)
include hrel

theorem moves_join (base : Path) : (base.join rel).moves = base.moves ++ rel.moves := by
  rw [moves, steps_join_of_relative hrel, List.filter_append]
  rfl

theorem components_join (hbase : base ≠ "") :
    (base.join rel).components = base.components ++ rel.moves := by
  have horigin : (base.join rel).origin = base.origin := by
    rw [origin, origin, isAbsolute_join hbase hrel, steps_join_of_relative hrel]
    split
    · rfl
    · next hrelative =>
      have hne := steps_ne_nil hbase (Bool.eq_false_of_not_eq_true hrelative)
      rw [List.head?_append_of_ne_nil _ hne]
  rw [components, horigin, moves_join hrel, components, List.append_assoc]

end Join

theorem components_join_name (hname : IsName name) (base : Path) :
    (base.join name).components = base.components ++ [name] := by
  by_cases hbase : base = ""
  · rw [hbase, join_of_empty, components, origin_of_isName hname, moves_of_isName hname]
    rfl
  · rw [components_join hname.isRelative hbase, moves_of_isName hname]

theorem of_components (hname : IsName name) (h : p.components = base.components ++ name :: rest) :
    p.origin = base.origin ∧ p.moves = base.moves ++ name :: rest := by
  have hmoves : ∀ step ∈ p.moves.head?, step ≠ "/" ∧ step ≠ "." :=
    fun step hstep => ne_origin_of_mem_moves (List.mem_of_head? hstep)
  have hbelow : ∀ step ∈ (base.moves ++ name :: rest).head?, step ≠ "/" ∧ step ≠ "." := by
    cases hbase : base.moves with
    | nil =>
      rintro step ⟨⟩
      exact ⟨hname.ne_root, hname.ne_here⟩
    | cons first moves =>
      rintro step ⟨⟩
      exact ne_origin_of_mem_moves (hbase ▸ List.mem_cons_self)
  rw [components, components, List.append_assoc, List.append_eq_append_iff] at h
  -- Otherwise the first move of one of them would be what the other one starts from.
  rcases h with ⟨others, horigin, heq⟩ | ⟨others, horigin, heq⟩
  · cases others with
    | nil => exact ⟨(horigin.trans (List.append_nil _)).symm, heq⟩
    | cons step others =>
      rw [heq] at hmoves
      obtain ⟨hroot, hhere⟩ := hmoves step rfl
      exact absurd (mem_origin (horigin ▸ List.mem_append_right _ List.mem_cons_self))
        (not_or.mpr ⟨hroot, hhere⟩)
  · cases others with
    | nil => exact ⟨horigin.trans (List.append_nil _), heq.symm⟩
    | cons step others =>
      rw [heq] at hbelow
      obtain ⟨hroot, hhere⟩ := hbelow step rfl
      exact absurd (mem_origin (horigin ▸ List.mem_append_right _ List.mem_cons_self))
        (not_or.mpr ⟨hroot, hhere⟩)

end Path

namespace FileTree

variable {t : FileTree} {base p rel : Path} {place q : Place} {step : String} {steps : List String}

theorem start_of_origin (h : p.origin = base.origin) (t : FileTree) : t.start p = t.start base := by
  have hroot : ∀ p : Path, p.isAbsolute = true ↔ "/" ∈ p.origin := by
    intro p
    rw [Path.origin]
    split
    · next habsolute => simpa using habsolute
    · next hrelative =>
      refine iff_of_false hrelative ?_
      split <;> simp
  have habsolute : p.isAbsolute = base.isAbsolute := by
    rw [Bool.eq_iff_iff, hroot, hroot, h]
  rw [start, start, habsolute]

/-- Steps to where one is can be left out of an open way. -/
theorem walk_moves (h : t.walk place steps = .ok q) :
    t.walk place (steps.filter (· != ".")) = .ok q := by
  induction steps generalizing place with
  | nil => exact h
  | cons step steps ih =>
    obtain ⟨hplace, place', hnext, hwalk⟩ := walk_cons_eq_ok.mp h
    by_cases hstep : step = "."
    · subst hstep
      obtain rfl := Except.ok.inj hnext
      exact ih hwalk
    · rw [List.filter_cons_of_pos (by simpa using hstep)]
      exact walk_cons_eq_ok.mpr ⟨hplace, place', hnext, ih hwalk⟩

theorem walk_end_eq {b : Bool} (h : t.walk place (if b then ["."] else []) = .ok q) : q = place := by
  cases b with
  | false => exact (Except.ok.inj h).symm
  | true => exact (Except.ok.inj (walk_moves h)).symm

theorem walk_of_locate (h : t.locate p = .ok q) : t.walk (t.start p) p.moves = .ok q := by
  obtain ⟨-, place, hwalk, hend⟩ := locate_eq_ok.mp h
  rw [walk_end_eq hend]
  exact walk_moves hwalk

theorem foldl_advance_of_names (h : ∀ step ∈ steps, Path.IsName step) (place : Place) :
    steps.foldl advance place = place ++ steps := by
  induction steps generalizing place with
  | nil => exact (List.append_nil place).symm
  | cons step steps ih =>
    rw [List.forall_mem_cons] at h
    rw [List.foldl_cons, advance_name h.1, ih h.2, List.append_assoc]
    rfl

/-- Below a path that a tree could have, it could also have one to each name on the way. -/
theorem checkPath_join_of_mem (hrel : rel.isAbsolute = false) (hname : Path.IsName step)
    (hstep : step ∈ rel.steps) (h : checkPath (base.join rel) = .ok ()) :
    checkPath (base.join step) = .ok () := by
  obtain ⟨part, hpart, rfl⟩ := List.mem_map.mp hstep
  obtain ⟨front, back, hparts⟩ := Text.infix_of_mem_split (List.mem_filter.mp hpart).1
  have hrest : rel = String.ofList front ++ String.ofList part ++ String.ofList back := by
    rw [← String.ofList_append, ← String.ofList_append, hparts, String.ofList_toList]
  refine checkPath_join_mono hrel hname (fun hnul => ?_) ?_ h
  · rw [hrest, String.toList_append, String.toList_append]
    exact List.mem_append_left _ (List.mem_append_right _ hnul)
  · rw [hrest, String.utf8ByteSize_append, String.utf8ByteSize_append]
    omega

end FileTree
end Conformance
