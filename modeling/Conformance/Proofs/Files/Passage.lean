import Conformance.Proofs.Files.Absence

/-!
# Ways without files

A path within the limits of trees leads to its end, or something on it is missing, as long as no file
is on its way. What is missing can then be made.
-/
namespace Conformance

namespace FileTree

variable {t t' : FileTree} {p : Path} {place q : Place} {name : String} {steps : List String}

/-! ## Making all directories on a way -/

/-- The ways to the directories on a way, the shortest first. -/
def leads (steps : List String) : List (List String) :=
  ((List.range steps.length).filter (steps[·]? != some ".")).map fun n => steps.take (n + 1)

theorem shorterWays_eq (steps : List String) : shorterWays steps = (leads steps).dropLast.reverse :=
  rfl

theorem leads_concat (steps : List String) (step : String) :
    leads (steps ++ [step]) = leads steps ++ if step = "." then [] else [steps ++ [step]] := by
  have hbefore : ((List.range steps.length).filter fun n => (steps ++ [step])[n]? != some ".").map
      (fun n => (steps ++ [step]).take (n + 1)) = leads steps := by
    have hget : ∀ n ∈ List.range steps.length, ((steps ++ [step])[n]? != some ".") =
        (steps[n]? != some ".") := fun n hn => by
      rw [List.getElem?_append_left (List.mem_range.mp hn)]
    rw [List.filter_congr hget, leads]
    refine List.map_congr_left fun n hn => ?_
    have hlt := List.mem_range.mp (List.mem_filter.mp hn).1
    rw [List.take_append_of_le_length (by omega)]
  rw [leads, List.length_append, List.length_singleton, List.range_succ, List.filter_append,
    List.map_append, hbefore, List.filter_singleton, List.getElem?_concat_length]
  by_cases hstep : step = "."
  · simp [hstep]
  · have hname : (some step != some ".") = true := by simpa using hstep
    have htake : (steps ++ [step]).take (steps.length + 1) = steps ++ [step] :=
      List.take_of_length_le (by simp)
    simp [hstep, hname, htake]

/-- The end of an open way is a directory, or can be made one, unless it is a file. -/
theorem makeDirectory_of_walk (hwalk : t.walk place steps = .ok q)
    (hfree : ∀ bytes, t.at? q ≠ some (.file bytes)) :
    ∃ t', (t.makeDirectory place steps = .ok t' ∨
        t' = t ∧ t.makeDirectory place steps = .error .alreadyExists ∧
          t.unlessThere place steps .alreadyExists = .ok ()) ∧
      t'.walk place steps = .ok q ∧ t'.at? q = some .directory := by
  cases hat : t.at? q with
  | none =>
    have hmake : t.makeDirectory place steps = .ok (t.put q .directory) := by
      simp only [makeDirectory, hwalk, hat, bind, Except.bind]
      rfl
    have hne : q ≠ [] := by
      rintro rfl
      cases hat
    exact ⟨_, .inl hmake, walk_mono (makeDirectory_grows hmake).keeps hwalk,
      by rw [at?_put hne, if_pos rfl]⟩
  | some e =>
    cases e with
    | file bytes => exact absurd hat (hfree bytes)
    | directory =>
      have hmake : t.makeDirectory place steps = .error .alreadyExists := by
        simp only [makeDirectory, hwalk, hat, bind, Except.bind]
        rfl
      refine ⟨t, .inr ⟨rfl, hmake, ?_⟩, hwalk, hat⟩
      simp [unlessThere, hwalk, isDirectoryAt, hat]

/-- Where a way is open, no shorter ones are made. -/
theorem makeAll_of_walk (hwalk : t.walk place steps = .ok q)
    (hfree : ∀ bytes, t.at? q ≠ some (.file bytes)) (ways : List (List String)) :
    ∃ t', t.makeAll place (steps :: ways) = (.ok (), t') ∧
      t'.walk place steps = .ok q ∧ t'.at? q = some .directory := by
  obtain ⟨t', hmake | ⟨rfl, hmake, hfound⟩, hended⟩ := makeDirectory_of_walk hwalk hfree
  · exact ⟨t', by simp only [makeAll, hmake], hended⟩
  · exact ⟨t', by simp only [makeAll, hmake, hfound], hended⟩

/-- What is missing on a way is made first, and then its end. -/
theorem makeAll_of_missing {made : FileTree} {ways : List (List String)}
    (hmissing : t.walk place steps = .error .notFound)
    (hmade : t.makeAll place ways = (.ok (), made)) (hwalk : made.walk place steps = .ok q)
    (hfree : ∀ bytes, made.at? q ≠ some (.file bytes)) :
    ∃ t', t.makeAll place (steps :: ways) = (.ok (), t') ∧
      t'.walk place steps = .ok q ∧ t'.at? q = some .directory := by
  have hfirst : t.makeDirectory place steps = .error .notFound := by
    rw [makeDirectory, hmissing]
    rfl
  obtain ⟨t', hmake | ⟨rfl, hmake, hfound⟩, hended⟩ := makeDirectory_of_walk hwalk hfree
  · exact ⟨t', by simp only [makeAll, hfirst, hmade, hmake], hended⟩
  · exact ⟨t', by simp only [makeAll, hfirst, hmade, hmake, hfound], hended⟩

theorem makeAll_of_free (hplain : IsPlainWay steps) (hplace : t.at? place = some .directory)
    (hfree : ∀ q ∈ passed place steps, ∀ bytes, t.at? q ≠ some (.file bytes)) :
    ∃ t', t.makeAll place (leads steps).reverse = (.ok (), t') ∧
      t'.walk place steps = .ok (steps.foldl advance place) ∧
      t'.at? (steps.foldl advance place) = some .directory := by
  -- The induction takes off the last step, since all shorter ways are made before a longer one.
  induction steps using List.reverseRecOn with
  | nil => exact ⟨t, rfl, rfl, hplace⟩
  | append_singleton steps step ih =>
    have hwalk := walk_of_free hplain hfree
    rw [passed_append, List.forall_mem_append, List.forall_mem_singleton] at hfree
    rw [IsPlainWay, List.forall_mem_append, List.forall_mem_singleton] at hplain
    obtain ⟨made, hmade, hopen, hdirectory⟩ := ih hplain.1 hfree.1
    have hgrows : t.Grows made := by
      have hgrows := makeAll_grows t place (leads steps).reverse
      rwa [hmade] at hgrows
    have hend : (steps ++ [step]).foldl advance place =
        advance (steps.foldl advance place) step := List.foldl_concat _ _ _ _
    have hnext : made.walk place (steps ++ [step]) =
        .ok (advance (steps.foldl advance place) step) := by
      rw [walk_append_eq, hopen]
      show made.walk _ [step] = _
      rw [walk_cons hdirectory, next_plain hplain.2]
      rfl
    rw [leads_concat]
    rw [hend] at hwalk ⊢
    by_cases hstep : step = "."
    · subst hstep
      rw [if_pos rfl, List.append_nil]
      exact ⟨made, hmade, hnext, hdirectory⟩
    · rw [if_neg hstep, List.reverse_append, List.reverse_singleton, List.singleton_append]
      rcases hwalk with hmissing | hthere
      · exact makeAll_of_missing hmissing hmade hnext fun bytes hat =>
          hfree.2 bytes (hgrows.file.mp hat)
      · exact makeAll_of_walk hthere hfree.2 _

/-! ## Paths -/

/-- A path within the limits of trees that never goes up. -/
structure IsWithinLimits (p : Path) : Prop where
  checked : checkPath p = .ok ()
  plain : IsPlainWay p.steps

instance (p : Path) : Decidable (IsWithinLimits p) :=
  decidable_of_iff (checkPath p = .ok () ∧ IsPlainWay p.steps)
    ⟨fun h => ⟨h.1, h.2⟩, fun h => ⟨h.1, h.2⟩⟩

structure IsFree (t : FileTree) (p : Path) : Prop where
  start : t.at? (t.start p) = some .directory
  free : ∀ q ∈ passed (t.start p) p.steps, ∀ bytes, t.at? q ≠ some (.file bytes)

section Names
variable (hname : Path.IsName name)
include hname

theorem isPlainWay_join :
    IsPlainWay (p.join name).steps ↔ IsPlainWay p.steps ∧ name.utf8ByteSize ≤ longestName := by
  rw [Path.steps_join hname, IsPlainWay, IsPlainWay, List.forall_mem_append,
    List.forall_mem_singleton, and_iff_right hname.ne_up]

theorem IsWithinLimits.of_join (h : IsWithinLimits (p.join name)) (hp : p ≠ "") :
    IsWithinLimits p where
  checked := checkPath_of_join hname hp h.checked
  plain := ((isPlainWay_join hname).mp h.plain).1

theorem IsWithinLimits.join_mono {longer : String} (hlonger : Path.IsName longer)
    (hnul : '\x00' ∈ name.toList → '\x00' ∈ longer.toList)
    (hsize : name.utf8ByteSize ≤ longer.utf8ByteSize) (h : IsWithinLimits (p.join longer)) :
    IsWithinLimits (p.join name) where
  checked := checkPath_join_mono hlonger.isRelative hname hnul hsize h.checked
  plain := by
    obtain ⟨hplain, hlength⟩ := (isPlainWay_join hlonger).mp h.plain
    exact (isPlainWay_join hname).mpr ⟨hplain, hsize.trans hlength⟩

theorem makeDirectories_of_isFree (hlimits : IsWithinLimits (p.join name))
    (hfree : t.IsFree (p.join name)) : ∃ t', t.makeDirectories (p.join name) = (.ok (), t') ∧
      t'.LeadsTo (p.join name) (t.target (p.join name)) := by
  obtain ⟨t', hmade, hwalk, hdirectory⟩ := makeAll_of_free hlimits.plain hfree.start hfree.free
  have hways : (leads (p.join name).steps).reverse =
      (p.join name).steps :: shorterWays (p.join name).steps := by
    rw [shorterWays_eq, Path.steps_join hname, leads_concat, if_neg hname.ne_here,
      List.dropLast_concat, List.reverse_append]
    rfl
  rw [hways] at hmade
  have hkeeps : Keeps t t' := by
    have hgrows := makeAll_grows t (t.start (p.join name))
      ((p.join name).steps :: shorterWays (p.join name).steps)
    rw [hmade] at hgrows
    exact hgrows.keeps
  refine ⟨t', by rw [makeDirectories, hlimits.checked]; exact hmade, hlimits.checked, ?_, hdirectory⟩
  rw [start, hkeeps.here]
  exact hwalk

/-- A path to a name leads there, or the directory is missing. -/
theorem locate_join_of_isFree (hp : p ≠ "") (hlimits : IsWithinLimits (p.join name))
    (hfree : t.IsFree p) : t.locate (p.join name) = .error .notFound ∨
      t.locate (p.join name) = .ok (t.target p ++ [name]) := by
  obtain ⟨hplain, hlength⟩ := (isPlainWay_join hname).mp hlimits.plain
  have hlocate : t.locate (p.join name) =
      (t.walk (t.start p) p.steps).bind (t.walk · [name]) := by
    rw [locate_eq, hlimits.checked, way, Path.endsInSlash_join hp hname, start_join hname,
      Path.steps_join hname, ← walk_append_eq]
    simp [Except.bind]
  rw [hlocate]
  rcases walk_of_free hplain hfree.free with hmissing | hthere
  · exact .inl (by rw [hmissing]; rfl)
  · rw [hthere]
    show t.walk (t.target p) [name] = _ ∨ t.walk (t.target p) [name] = _
    cases hat : t.at? (t.target p) with
    | none => exact .inl (by rw [walk, hat])
    | some e =>
      cases e with
      | file bytes => exact absurd hat (hfree.free _ (foldl_mem_passed _ _) bytes)
      | directory => exact .inr ((walk_name hname).mpr ⟨hat, hlength, rfl⟩)

end Names

/-- A listing of a directory fails at most because it is missing. -/
theorem listFiles_of_isFree (hlimits : IsWithinLimits p) (hfree : t.IsFree p) :
    t.listFiles p = .error .notFound ∨ ∃ names, t.listFiles p = .ok names := by
  have hway : ∀ q ∈ passed (t.start p) (way p), q ∈ passed (t.start p) p.steps := by
    intro q hq
    rw [way] at hq
    split at hq
    · rw [passed_append, List.mem_append, List.mem_singleton] at hq
      rcases hq with hq | rfl
      · exact hq
      · exact foldl_mem_passed _ _
    · rwa [List.append_nil] at hq
  have hplain : IsPlainWay (way p) := isPlainWay_append_end hlimits.plain _
  rw [listFiles_eq, locate_eq, hlimits.checked]
  rcases walk_of_free hplain fun q hq => hfree.free q (hway q hq) with hmissing | hthere
  · exact .inl (by simp only [Except.bind, hmissing])
  · rw [foldl_way] at hthere
    simp only [Except.bind, hthere, listed]
    cases hat : t.at? (t.target p) with
    | none => exact .inl rfl
    | some e =>
      cases e with
      | file bytes => exact absurd hat (hfree.free _ (foldl_mem_passed _ _) bytes)
      | directory => exact .inr ⟨_, rfl⟩

theorem readBytes_of_isFree (hname : Path.IsName name) (hp : p ≠ "")
    (hlimits : IsWithinLimits (p.join name)) (hfree : t.IsFree p)
    (hfile : t.at? (t.target p ++ [name]) ≠ some .directory) :
    t.readBytes (p.join name) = .error .notFound ∨ ∃ bytes, t.readBytes (p.join name) = .ok bytes := by
  rcases locate_join_of_isFree hname hp hlimits hfree with hmissing | hthere
  · exact .inl (by rw [readBytes, FileTree.open?, hmissing]; rfl)
  · cases hat : t.at? (t.target p ++ [name]) with
    | none => exact .inl (by rw [readBytes, open?_eq_notFound hthere hat]; rfl)
    | some e =>
      cases e with
      | file bytes => exact .inr ⟨bytes, readBytes_of_file hthere hat⟩
      | directory => exact absurd hat hfile

/-! ## Changes -/

theorem LeadsTo.locate_of_isWithinLimits (h : t.LeadsTo p place) (hname : Path.IsName name)
    (hlimits : IsWithinLimits (p.join name)) : t.locate (p.join name) = .ok (place ++ [name]) := by
  rw [h.locate_join hname, hlimits.checked]
  exact (next_name hname).mpr ⟨((isPlainWay_join hname).mp hlimits.plain).2, rfl⟩

theorem writeFile_of_locate (hlocate : t.locate p = .ok q) (hq : t.at? q ≠ some .directory)
    (bytes : List UInt8) : t.writeFile p bytes = .ok (t.put q (.file bytes)) :=
  Except.bind_eq_ok.mpr ⟨q, hlocate, if_neg (by simpa [isDirectoryAt] using hq)⟩

theorem removeFile_of_locate {bytes : List UInt8} (hlocate : t.locate p = .ok q)
    (hq : t.at? q = some (.file bytes)) : t.removeFile p = .ok (t.erase q) :=
  Except.bind_eq_ok.mpr ⟨_, open?_eq_ok.mpr ⟨hlocate, hq⟩, rfl⟩

theorem moveFile_of_locate {source target : Path} {q' : Place} {bytes : List UInt8}
    (hsource : t.locate source = .ok q) (hq : t.at? q = some (.file bytes))
    (htarget : t.locate target = .ok q') (hq' : t.at? q' ≠ some .directory) :
    t.moveFile source target = .ok ((t.erase q).put q' (.file bytes)) :=
  Except.bind_eq_ok.mpr ⟨_, open?_eq_ok.mpr ⟨hsource, hq⟩,
    Except.bind_eq_ok.mpr ⟨q', htarget, if_neg (by simpa [isDirectoryAt] using hq')⟩⟩

end FileTree
end Conformance
