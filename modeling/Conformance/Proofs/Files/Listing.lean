import Conformance.Proofs.Files.Ways
import Mathlib.Data.List.Perm.Basic
import Mathlib.Data.List.Sort

/-!
# Listings of directories

A listing is in ascending order, so the names in it determine it. A path is listed by what is at the
place that its steps lead to.
-/
namespace Conformance

theorem nodup_of_ascending {xs : List String} (h : xs.Pairwise (· < ·)) : xs.Nodup :=
  h.imp fun hlt => ne_of_lt hlt

theorem eq_of_ascending {xs ys : List String} (hxs : xs.Pairwise (· < ·))
    (hys : ys.Pairwise (· < ·)) (h : ∀ x, x ∈ xs ↔ x ∈ ys) : xs = ys := by
  have hperm := (List.perm_ext_iff_of_nodup (nodup_of_ascending hxs) (nodup_of_ascending hys)).mpr h
  exact hperm.eq_of_pairwise (fun a b _ _ hab hba => absurd (lt_trans hab hba) (lt_irrefl a)) hxs hys

namespace FileTree

variable {t t' : FileTree} {p : Path} {place q : Place} {name : String} {steps : List String}

theorem pairwise_filesAt (t : FileTree) (place : Place) : (t.filesAt place).Pairwise (· < ·) :=
  (Catalog.pairwise_keys _).filter _

theorem walk_append_eq (xs ys : List String) :
    t.walk place (xs ++ ys) = (t.walk place xs).bind (t.walk · ys) := by
  induction xs generalizing place with
  | nil => rfl
  | cons step xs ih =>
    cases hplace : t.at? place with
    | none => simp only [List.cons_append, walk, hplace]; rfl
    | some e =>
      cases e with
      | file bytes => simp only [List.cons_append, walk, hplace]; rfl
      | directory =>
        rw [List.cons_append, walk_cons hplace, walk_cons hplace]
        cases next place step with
        | error cause => rfl
        | ok q => exact ih

/-- Where a name in a directory leads depends on nothing but the name. -/
theorem LeadsTo.locate_join (h : t.LeadsTo p place) (hname : Path.IsName name) :
    t.locate (p.join name) = (checkPath (p.join name)).bind fun _ => next place name := by
  have hstart : t.start (p.join name) = t.start p := by
    rw [start, start, Path.isAbsolute_join h.ne_empty hname.isRelative]
  have hnext : t.walk place [name] = next place name := by
    rw [walk_cons h.directory]
    cases next place name <;> rfl
  have hwalk : t.walk (t.start p) (p.steps ++ [name]) = next place name := by
    rw [walk_append_eq, h.walk]
    exact hnext
  rw [FileTree.locate, hstart, Path.steps_join hname, Path.endsInSlash_join h.ne_empty hname,
    if_neg Bool.false_ne_true, List.append_nil, hwalk]
  rfl

def listed (t : FileTree) (q : Place) : Except FileError (List String) :=
  match t.at? q with
  | none => .error .notFound
  | some (.file _) => .error .notADirectory
  | some .directory => .ok (t.filesAt q)

theorem listFiles_eq (t : FileTree) (p : Path) : t.listFiles p = (t.locate p).bind t.listed := by
  rw [listFiles, FileTree.open?]
  cases t.locate p with
  | error cause => rfl
  | ok q =>
    show _ = t.listed q
    rw [listed]
    cases hat : t.at? q with
    | none => simp only [bind, Except.bind, hat]; rfl
    | some e => cases e <;> simp only [bind, Except.bind, hat] <;> rfl

/-- The steps of a path, and the one that asks for a directory at its end. -/
def way (p : Path) : List String :=
  p.steps ++ if p.endsInSlash then ["."] else []

theorem locate_eq (t : FileTree) (p : Path) :
    t.locate p = (checkPath p).bind fun _ => t.walk (t.start p) (way p) :=
  rfl

end FileTree
end Conformance
