import Conformance.Proofs.Files.Listing

/-!
# Where paths lead

The place that a path leads to can be told from its steps; what is in the tree only decides whether
the way is open. Making directories changes nothing but places that the way passes.
-/
namespace Conformance.FileTree

variable {t t' : FileTree} {p : Path} {place q : Place} {step name : String} {steps : List String}
  {ways : List (List String)} {cause : FileError}

/-! ## Targets -/

def advance (place : Place) (step : String) : Place :=
  if step == "." then place else if step == ".." then place.dropLast else place ++ [step]

/-- The places that a way passes, its start and its end among them. -/
def passed (place : Place) : List String → List Place
  | [] => [place]
  | step :: steps => place :: passed (advance place step) steps

/-- Where a path leads if the way is open. -/
def target (t : FileTree) (p : Path) : Place :=
  p.steps.foldl advance (t.start p)

theorem advance_of_next (h : next place step = .ok q) : q = advance place step := by
  rw [next] at h
  rw [advance]
  split
  · next hhere =>
    rw [if_pos hhere] at h
    exact (Except.ok.inj h).symm
  · next hhere =>
    rw [if_neg hhere] at h
    split
    · next hup =>
      rw [if_pos hup] at h
      exact (Except.ok.inj h).symm
    · next hup =>
      rw [if_neg hup] at h
      split at h
      · cases h
      · exact (Except.ok.inj h).symm

theorem walk_eq_foldl (h : t.walk place steps = .ok q) : q = steps.foldl advance place := by
  induction steps generalizing place with
  | nil => exact (Except.ok.inj h).symm
  | cons step steps ih =>
    obtain ⟨-, place', hnext, hwalk⟩ := walk_cons_eq_ok.mp h
    rw [List.foldl_cons, ← advance_of_next hnext]
    exact ih hwalk

theorem LeadsTo.eq_target (h : t.LeadsTo p place) : place = t.target p :=
  walk_eq_foldl h.walk

theorem foldl_take_mem_passed (place : Place) (steps : List String) (n : Nat) :
    (steps.take n).foldl advance place ∈ passed place steps := by
  induction steps generalizing place n with
  | nil =>
    rw [List.take_nil]
    exact List.mem_singleton_self place
  | cons step steps ih =>
    cases n with
    | zero => exact List.mem_cons_self
    | succ n => exact List.mem_cons_of_mem _ (ih (advance place step) n)

theorem foldl_mem_passed (place : Place) (steps : List String) :
    steps.foldl advance place ∈ passed place steps := by
  have h := foldl_take_mem_passed place steps steps.length
  rwa [List.take_length] at h

theorem passed_append (place : Place) (steps : List String) (step : String) :
    passed place (steps ++ [step]) =
      passed place steps ++ [advance (steps.foldl advance place) step] := by
  induction steps generalizing place with
  | nil => rfl
  | cons first steps ih => rw [List.cons_append, passed, ih]; rfl

theorem advance_name (hname : Path.IsName name) : advance place name = place ++ [name] := by
  rw [advance, if_neg (by simpa using hname.ne_here), if_neg (by simpa using hname.ne_up)]

theorem start_join_of_relative {rel : Path} (hrel : rel.isAbsolute = false) (t : FileTree)
    (p : Path) : t.start (p.join rel) = t.start p := by
  by_cases hp : p = ""
  · rw [hp, Path.join_of_empty, start, start, hrel]
    rfl
  · rw [start, start, Path.isAbsolute_join hp hrel]

section Join
variable (hname : Path.IsName name)
include hname

theorem start_join (t : FileTree) (p : Path) : t.start (p.join name) = t.start p :=
  start_join_of_relative hname.isRelative t p

theorem target_join (t : FileTree) (p : Path) : t.target (p.join name) = t.target p ++ [name] := by
  rw [target, start_join hname, Path.steps_join hname, List.foldl_append, List.foldl_cons,
    List.foldl_nil, advance_name hname]
  rfl

theorem passed_join (t : FileTree) (p : Path) :
    passed (t.start (p.join name)) (p.join name).steps =
      passed (t.start p) p.steps ++ [t.target p ++ [name]] := by
  rw [start_join hname, Path.steps_join hname, passed_append, advance_name hname]
  rfl

theorem locate_join_target (hp : p ≠ "") (h : t.locate (p.join name) = .ok q) :
    q = t.target p ++ [name] := by
  obtain ⟨-, place, hwalk, -, -, rfl⟩ := (locate_join hp hname).mp h
  rw [walk_eq_foldl hwalk, target]

end Join

/-! ## Making directories -/

theorem makeDirectory_at? (h : t.makeDirectory place steps = .ok t') (q : Place) :
    t'.at? q = t.at? q ∨ q = steps.foldl advance place := by
  obtain ⟨place', hwalk, hrest⟩ := Except.bind_eq_ok.mp h
  split at hrest
  · cases hrest
  · next hat =>
    cases hrest
    have hne : place' ≠ [] := by
      rintro rfl
      cases hat
    rw [at?_put hne, ← walk_eq_foldl hwalk]
    split
    · next heq => exact .inr heq
    · exact .inl rfl

theorem makeAll_at? (t : FileTree) (place : Place) (ways : List (List String)) (q : Place) :
    (t.makeAll place ways).2.at? q = t.at? q ∨ ∃ way ∈ ways, q = way.foldl advance place := by
  induction ways with
  | nil => exact .inl rfl
  | cons way ways ih =>
    have hfirst : ∀ {t t' : FileTree}, t.makeDirectory place way = .ok t' → t'.at? q = t.at? q ∨
        ∃ way' ∈ way :: ways, q = way'.foldl advance place :=
      fun hmake => (makeDirectory_at? hmake q).imp id fun heq => ⟨way, List.mem_cons_self, heq⟩
    have hothers : (t.makeAll place ways).2.at? q = t.at? q ∨
        ∃ way' ∈ way :: ways, q = way'.foldl advance place :=
      ih.imp id fun ⟨way', hmem, heq⟩ => ⟨way', List.mem_cons_of_mem way hmem, heq⟩
    rw [makeAll]
    split
    · next hmake => exact hfirst hmake
    · split
      · next hmore =>
        rw [hmore] at hothers
        exact hothers
      · next hmore =>
        rw [hmore] at hothers
        split
        · next hmake =>
          rcases hfirst hmake with heq | hway
          · rw [heq]
            exact hothers
          · exact .inr hway
        · exact hothers
    · exact .inl rfl

theorem take_of_mem_shorterWays {way : List String} (h : way ∈ shorterWays steps) :
    ∃ n, way = steps.take n := by
  rw [shorterWays, List.mem_reverse] at h
  obtain ⟨n, -, rfl⟩ := List.mem_map.mp (List.dropLast_subset _ h)
  exact ⟨n + 1, rfl⟩

theorem makeDirectories_at? (t : FileTree) (p : Path) (q : Place) :
    (t.makeDirectories p).2.at? q = t.at? q ∨ q ∈ passed (t.start p) p.steps := by
  rw [makeDirectories]
  split
  · exact .inl rfl
  · refine (makeAll_at? t (t.start p) _ q).imp id ?_
    rintro ⟨way, hway, rfl⟩
    rcases List.mem_cons.mp hway with rfl | hway
    · exact foldl_mem_passed _ _
    · obtain ⟨n, rfl⟩ := take_of_mem_shorterWays hway
      exact foldl_take_mem_passed _ _ n

/-! ## Failures -/

theorem walk_error (h : t.walk place steps = .error cause) :
    cause ∈ [.notFound, .notADirectory, .nameTooLong] := by
  induction steps generalizing place with
  | nil => cases h
  | cons step steps ih =>
    rw [walk] at h
    split at h
    · cases h
      decide
    · cases h
      decide
    · split at h
      · exact ih h
      · split at h
        · exact ih h
        · split at h
          · cases h
            decide
          · exact ih h

/-- A way that is not open is not, whatever was to be done at its end. -/
theorem locate_error (h : t.locate p = .error cause) :
    cause ∈ [.notFound, .notADirectory, .nameTooLong, .nulInName] := by
  rw [locate_eq] at h
  cases hchecked : checkPath p with
  | error cause' =>
    rw [hchecked] at h
    cases h
    rw [checkPath] at hchecked
    split at hchecked
    · cases hchecked
      decide
    · split at hchecked
      · cases hchecked
        decide
      · split at hchecked
        · cases hchecked
          decide
        · cases hchecked
  | ok _ =>
    rw [hchecked] at h
    have hcause := walk_error h
    rw [List.mem_cons, List.mem_cons, List.mem_singleton] at hcause
    rcases hcause with rfl | rfl | rfl <;> decide

/-! ## Files that are no text

Only what reads a file as text can fail for what is in it.
-/

theorem bind_ne_notText {α β : Type} {x : Except FileError α} {f : α → Except FileError β}
    (hx : x ≠ .error .notText) (hf : ∀ a, f a ≠ .error .notText) : x >>= f ≠ .error .notText := by
  cases x with
  | error cause => exact fun h => hx (congrArg Except.error (Except.error.inj h))
  | ok a => exact hf a

theorem locate_ne_notText (t : FileTree) (p : Path) : t.locate p ≠ .error .notText := by
  intro h
  exact absurd (locate_error h) (by decide)

theorem open?_ne_notText (t : FileTree) (p : Path) : t.open? p ≠ .error .notText := by
  refine bind_ne_notText (locate_ne_notText t p) fun place => ?_
  cases t.at? place <;> exact nofun

theorem listFiles_ne_notText (t : FileTree) (p : Path) : t.listFiles p ≠ .error .notText := by
  refine bind_ne_notText (open?_ne_notText t p) fun found => ?_
  rcases found with ⟨place, bytes | _⟩ <;> exact nofun

theorem writeFile_ne_notText (t : FileTree) (p : Path) (bytes : List UInt8) :
    t.writeFile p bytes ≠ .error .notText := by
  refine bind_ne_notText (locate_ne_notText t p) fun place => ?_
  split <;> exact nofun

theorem removeFile_ne_notText (t : FileTree) (p : Path) : t.removeFile p ≠ .error .notText := by
  refine bind_ne_notText (open?_ne_notText t p) fun found => ?_
  rcases found with ⟨place, bytes | _⟩ <;> exact nofun

theorem moveFile_ne_notText (t : FileTree) (source target : Path) :
    t.moveFile source target ≠ .error .notText := by
  refine bind_ne_notText (open?_ne_notText t source) fun found => ?_
  rcases found with ⟨place, bytes | _⟩
  · refine bind_ne_notText (locate_ne_notText t target) fun place' => ?_
    split <;> exact nofun
  · exact nofun

theorem makeDirectory_ne_notText (t : FileTree) (place : Place) (steps : List String) :
    t.makeDirectory place steps ≠ .error .notText := by
  refine bind_ne_notText (fun h => absurd (walk_error h) (by decide)) fun place' => ?_
  cases t.at? place' <;> exact nofun

theorem unlessThere_ne_notText (way : List String) (hcause : cause ≠ .notText) :
    t.unlessThere place way cause ≠ .error .notText := by
  rw [unlessThere]
  split
  · split
    · simp
    · simpa using hcause
  · simpa using hcause

theorem makeAll_ne_notText (t : FileTree) (place : Place) (ways : List (List String)) :
    (t.makeAll place ways).1 ≠ .error .notText := by
  have hmake := fun (t : FileTree) (way : List String) {cause : FileError}
      (h : t.makeDirectory place way = .error cause) (hcause : cause = .notText) =>
    makeDirectory_ne_notText t place way (hcause ▸ h)
  induction ways with
  | nil => simp [makeAll]
  | cons way ways ih =>
    rw [makeAll]
    split
    · simp
    · split
      · next hmore =>
        rw [hmore] at ih
        exact ih
      · split
        · simp
        · next hfail => exact unlessThere_ne_notText way (hmake _ _ hfail)
    · next hfail => exact unlessThere_ne_notText way (hmake _ _ hfail)

theorem makeDirectories_ne_notText (t : FileTree) (p : Path) :
    (t.makeDirectories p).1 ≠ .error .notText := by
  rw [makeDirectories]
  split
  · next hchecked =>
    rintro ⟨⟩
    have hlocate : t.locate p = .error .notText := by
      rw [locate_eq, hchecked]
      rfl
    exact locate_ne_notText t p hlocate
  · exact makeAll_ne_notText t _ _

end Conformance.FileTree
