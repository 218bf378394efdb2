import Conformance.Proofs.Files.Absence

/-!
# Changes that keep trees sound

Files are put and directories are made in directories that are there, under proper names, and only
files are removed. So a sound tree stays sound.
-/
namespace Conformance.FileTree

variable {t t' : FileTree} {p : Path} {place q : Place} {name : String} {e : Entry}
  {bytes : List UInt8} {steps : List String} {ways : List (List String)}

theorem IsSound.put (hsound : t.IsSound) (hkeeps : t.Keeps (t.put (place ++ [name]) e))
    (hplace : t.at? place = some .directory) (hname : Path.IsName name) :
    (t.put (place ++ [name]) e).IsSound := by
  intro entry hentry
  rcases List.mem_cons.mp hentry with rfl | hentry
  · refine ⟨hkeeps.directory (by rwa [List.dropLast_concat]), ?_⟩
    simpa using hname
  · obtain ⟨hdirectory, hnames⟩ := hsound entry (List.mem_filter.mp hentry).1
    exact ⟨hkeeps.directory hdirectory, hnames⟩

theorem IsSound.erase (hsound : t.IsSound) (hfree : t.at? q ≠ some .directory) :
    (t.erase q).IsSound := by
  intro entry hentry
  obtain ⟨hdirectory, hnames⟩ := hsound entry (List.mem_filter.mp hentry).1
  exact ⟨(keeps_erase hfree).directory hdirectory, hnames⟩

/-! ## Files -/

section Named
variable (hp : p ≠ "") (hname : Path.IsName name)
include hp hname

theorem IsSound.writeFile (hsound : t.IsSound) (h : t.writeFile (p.join name) bytes = .ok t') :
    t'.IsSound := by
  obtain ⟨q, hlocate, hfree, rfl⟩ := writeFile_eq_ok h
  obtain ⟨-, place, -, hplace, -, rfl⟩ := (FileTree.locate_join hp hname).mp hlocate
  exact hsound.put (keeps_put_file hfree bytes) hplace hname

theorem IsSound.moveFile {source : Path} (hsound : t.IsSound)
    (h : t.moveFile source (p.join name) = .ok t') : t'.IsSound := by
  obtain ⟨q, q', bytes, -, hat, hlocate, hfree, rfl⟩ := moveFile_eq_ok h
  obtain ⟨-, place, -, hplace, -, rfl⟩ := (FileTree.locate_join hp hname).mp hlocate
  have hsource : t.at? q ≠ some .directory := by simp [hat]
  have hkeeps := keeps_erase hsource
  refine (hsound.erase hsource).put (keeps_put_file ?_ bytes) (hkeeps.directory hplace) hname
  rw [at?_erase (ne_nil_of_free hsource)]
  split
  · simp
  · exact hfree

end Named

theorem IsSound.removeFile (hsound : t.IsSound) (h : t.removeFile p = .ok t') : t'.IsSound := by
  obtain ⟨q, bytes, -, hat, rfl⟩ := removeFile_eq_ok h
  exact hsound.erase (by simp [hat])

/-! ## Directories -/

/-- A way with a step to be made: what the last step names is missing in a directory. -/
theorem exists_parent (hsound : t.IsSound) (hne : steps ≠ []) (h : t.walk place steps = .ok q)
    (hq : t.at? q = none) : ∃ place' step, step ∈ steps ∧ step ≠ "." ∧ step ≠ ".." ∧
      t.at? place' = some .directory ∧ q = place' ++ [step] := by
  obtain ⟨init, step, rfl⟩ := List.eq_nil_or_concat steps |>.resolve_left hne
  rw [List.concat_eq_append] at h
  obtain ⟨place', -, hlast⟩ := walk_append.mp h
  obtain ⟨hplace', q', hnext, hend⟩ := walk_cons_eq_ok.mp hlast
  obtain rfl := Except.ok.inj hend
  obtain rfl := advance_of_next hnext
  have hhere : step ≠ "." := by
    rintro rfl
    have hstay : advance place' "." = place' := rfl
    rw [hstay, hplace'] at hq
    cases hq
  have hup : step ≠ ".." := by
    rintro rfl
    have hdrop : advance place' ".." = place'.dropLast := rfl
    have hparent : t.at? place'.dropLast = some .directory := by
      rcases List.eq_nil_or_concat place' with rfl | ⟨before, last, rfl⟩
      · rfl
      · rw [List.concat_eq_append] at hplace' ⊢
        rw [List.dropLast_concat]
        exact hsound.directory hplace'
    rw [hdrop, hparent] at hq
    cases hq
  refine ⟨place', step, by simp, hhere, hup, hplace', ?_⟩
  rw [advance, if_neg (by simpa using hhere), if_neg (by simpa using hup)]

theorem IsSound.makeDirectory (hsound : t.IsSound) (hne : steps ≠ []) (hsteps : steps ⊆ p.steps)
    (h : t.makeDirectory place steps = .ok t') : t'.IsSound := by
  have hkeeps := (makeDirectory_grows h).keeps
  obtain ⟨q, hwalk, hrest⟩ := Except.bind_eq_ok.mp h
  split at hrest
  · cases hrest
  · next hq =>
    cases hrest
    obtain ⟨place', step, hstep, hhere, hup, hplace', rfl⟩ := exists_parent hsound hne hwalk hq
    exact hsound.put hkeeps hplace' (Path.isName_of_mem_steps (hsteps hstep) hhere hup)

theorem IsSound.makeAll (hsound : t.IsSound) (hways : ∀ way ∈ ways, way ≠ [] ∧ way ⊆ p.steps) :
    (t.makeAll place ways).2.IsSound := by
  induction ways with
  | nil => exact hsound
  | cons way ways ih =>
    rw [List.forall_mem_cons] at hways
    obtain ⟨⟨hne, hsteps⟩, hways⟩ := hways
    have hrest := ih hways
    rw [FileTree.makeAll]
    split
    · next hmake => exact hsound.makeDirectory hne hsteps hmake
    · split
      · next hmore =>
        rw [hmore] at hrest
        exact hrest
      · next hmore =>
        rw [hmore] at hrest
        split
        · next hmake => exact hrest.makeDirectory hne hsteps hmake
        · exact hrest
    · exact hsound

theorem ne_nil_of_mem_shorterWays {way : List String} (h : way ∈ shorterWays steps) :
    way ≠ [] ∧ way ⊆ steps := by
  rw [shorterWays, List.mem_reverse] at h
  obtain ⟨n, hn, rfl⟩ := List.mem_map.mp (List.dropLast_subset _ h)
  have hlt : n < steps.length := List.mem_range.mp (List.mem_filter.mp hn).1
  refine ⟨?_, List.take_subset _ _⟩
  apply List.ne_nil_of_length_pos
  rw [List.length_take]
  omega

theorem IsSound.makeDirectories (hsound : t.IsSound) (hp : p.steps ≠ []) :
    (t.makeDirectories p).2.IsSound := by
  rw [FileTree.makeDirectories]
  split
  · exact hsound
  · apply hsound.makeAll (p := p)
    rw [List.forall_mem_cons]
    exact ⟨⟨hp, List.Subset.refl _⟩, fun way hway => ne_nil_of_mem_shorterWays hway⟩

end Conformance.FileTree
