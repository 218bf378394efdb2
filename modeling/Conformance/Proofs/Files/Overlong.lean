import Conformance.Proofs.Files.Listing

/-!
# Overlong names

A way to an overlong name in a missing directory is just missing. Making the directories on it makes
that directory before it fails, and from then on the name is too long.
-/
namespace Conformance.FileTree

variable {t : FileTree} {p : Path} {place q : Place} {first name step : String}
  {rest : List String} {ways : List (List String)}

/-! ## Ways -/

section Ways
variable (hplace : t.at? place = some .directory) (hfirst : next place first = .ok q)
include hplace hfirst

theorem walk_missing (hq : t.at? q = none) (rest : List String) :
    t.walk place (first :: step :: rest) = .error .notFound := by
  rw [walk_cons hplace, hfirst]
  simp [Except.bind, walk, hq]

theorem walk_overlong (hq : t.at? q = some .directory) (hname : Path.IsName name)
    (hlong : longestName < name.utf8ByteSize) (rest : List String) :
    t.walk place (first :: name :: rest) = .error .nameTooLong := by
  have hnext : next q name = .error .nameTooLong := by
    simp [next, hname.ne_here, hname.ne_up, hlong]
  rw [walk_cons hplace, hfirst]
  simp only [Except.bind]
  rw [walk_cons hq, hnext]
  rfl

/-- The directory that the name would be in is made, whatever else was to be made in it. -/
theorem makeAll_overlong (hq : t.at? q = none) (hname : Path.IsName name)
    (hlong : longestName < name.utf8ByteSize) (hne : ways ≠ [])
    (hways : ∀ way ∈ ways, ∃ rest, way = first :: name :: rest) :
    t.makeAll place (ways ++ [[first]]) = (.error .nameTooLong, t.put q .directory) := by
  have hfree : q ≠ [] := by
    rintro rfl
    cases hq
  have hplace' : (t.put q .directory).at? place = some .directory := by
    rw [at?_put hfree]
    split
    · rfl
    · exact hplace
  have hq' : (t.put q .directory).at? q = some .directory := by
    rw [at?_put hfree, if_pos rfl]
  have hmade : t.makeAll place [[first]] = (.ok (), t.put q .directory) := by
    have hwalk : t.walk place [first] = .ok q := by
      rw [walk_cons hplace, hfirst]
      rfl
    have hmake : t.makeDirectory place [first] = .ok (t.put q .directory) := by
      simp only [makeDirectory, hwalk, bind, Except.bind, hq]
      rfl
    simp only [makeAll, hmake]
  induction ways with
  | nil => exact absurd rfl hne
  | cons way ways ih =>
    rw [List.forall_mem_cons] at hways
    obtain ⟨⟨rest, rfl⟩, hways⟩ := hways
    have hmissing : t.makeDirectory place (first :: name :: rest) = .error .notFound := by
      simp only [makeDirectory, walk_missing hplace hfirst hq rest]
      rfl
    rw [List.cons_append, makeAll, hmissing]
    cases ways with
    | nil =>
      have hwalk := walk_overlong hplace' hfirst hq' hname hlong rest
      have hrefused : (t.put q .directory).makeDirectory place (first :: name :: rest) =
          .error .nameTooLong := by
        simp only [makeDirectory, hwalk]
        rfl
      simp only [List.nil_append, hmade, hrefused, unlessThere, hwalk]
    | cons way' ways => simp only [ih (List.cons_ne_nil _ _) hways]

end Ways

/-- All shorter ways go on to the name but the one that ends before it. -/
theorem exists_shorterWays (hfirst : first ≠ ".") (hname : name ≠ ".") (rest : List String) :
    ∃ ways, shorterWays (first :: name :: rest) = ways ++ [[first]] ∧
      ∀ way ∈ ways, ∃ rest, way = first :: name :: rest := by
  let later := ((List.range rest.length).map (· + 2)).filter
    ((first :: name :: rest)[·]? != some ".")
  have hrange : (List.range (first :: name :: rest).length).filter
      ((first :: name :: rest)[·]? != some ".") = 0 :: 1 :: later := by
    have hsplit : List.range (first :: name :: rest).length =
        0 :: 1 :: (List.range rest.length).map (· + 2) := by
      simp [List.range_succ_eq_map]
    rw [hsplit, List.filter_cons_of_pos (by simpa using hfirst),
      List.filter_cons_of_pos (by simpa using hname)]
  refine ⟨([first, name] :: later.map fun n => (first :: name :: rest).take (n + 1)).dropLast.reverse,
    ?_, ?_⟩
  · rw [shorterWays, hrange]
    simp
  · intro way hway
    rcases List.mem_cons.mp (List.dropLast_subset _ (List.mem_reverse.mp hway)) with rfl | hway
    · exact ⟨[], rfl⟩
    · obtain ⟨n, hn, rfl⟩ := List.mem_map.mp hway
      obtain ⟨k, -, rfl⟩ := List.mem_map.mp (List.mem_filter.mp hn).1
      exact ⟨rest.take (k + 1), by simp⟩

/-! ## Paths -/

/-- The second step of a path is overlong. It follows a step into the place. -/
structure IsOverlongIn (t : FileTree) (p : Path) (q : Place) : Prop where
  checked : checkPath p = .ok ()
  start : t.at? (t.start p) = some .directory
  steps : ∃ first name rest, p.steps = first :: name :: rest ∧ first ≠ "." ∧
    next (t.start p) first = .ok q ∧ Path.IsName name ∧ longestName < name.utf8ByteSize

namespace IsOverlongIn

variable (h : t.IsOverlongIn p q)
include h

theorem exists_walk : ∃ first name rest, t.locate p = t.walk (t.start p) (first :: name :: rest) ∧
    next (t.start p) first = .ok q ∧ Path.IsName name ∧ longestName < name.utf8ByteSize := by
  obtain ⟨first, name, rest, hsteps, -, hfirst, hname, hlong⟩ := h.steps
  refine ⟨first, name, rest ++ if p.endsInSlash then ["."] else [], ?_, hfirst, hname, hlong⟩
  rw [locate_eq, h.checked, way, hsteps]
  rfl

theorem listFiles_of_missing (hq : t.at? q = none) : t.listFiles p = .error .notFound := by
  obtain ⟨first, name, rest, hlocate, hfirst, -, -⟩ := h.exists_walk
  rw [listFiles_eq, hlocate, walk_missing h.start hfirst hq]
  rfl

theorem listFiles_of_directory (hq : t.at? q = some .directory) :
    t.listFiles p = .error .nameTooLong := by
  obtain ⟨first, name, rest, hlocate, hfirst, hname, hlong⟩ := h.exists_walk
  rw [listFiles_eq, hlocate, walk_overlong h.start hfirst hq hname hlong]
  rfl

theorem makeDirectories_of_missing (hq : t.at? q = none) :
    t.makeDirectories p = (.error .nameTooLong, t.put q .directory) := by
  obtain ⟨first, name, rest, hsteps, hhere, hfirst, hname, hlong⟩ := h.steps
  obtain ⟨ways, hshorter, hways⟩ := exists_shorterWays hhere hname.ne_here rest
  have hall : ∀ way ∈ (first :: name :: rest) :: ways, ∃ rest, way = first :: name :: rest := by
    rw [List.forall_mem_cons]
    exact ⟨⟨rest, rfl⟩, hways⟩
  rw [makeDirectories, h.checked, hsteps, hshorter, ← List.cons_append]
  exact makeAll_overlong h.start hfirst hq hname hlong (List.cons_ne_nil _ _) hall

theorem put (hq : t.at? q = none) : (t.put q .directory).IsOverlongIn p q := by
  have hfree : q ≠ [] := by
    rintro rfl
    cases hq
  refine ⟨h.checked, ?_, h.steps⟩
  have hstart : (t.put q .directory).start p = t.start p := rfl
  rw [hstart, at?_put hfree]
  split
  · rfl
  · exact h.start

end IsOverlongIn
end Conformance.FileTree
