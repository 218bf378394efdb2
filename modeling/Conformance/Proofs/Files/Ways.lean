import Conformance.Proofs.Files.Tree

/-!
# Ways through file trees

A way leads to the same place for as long as the directories on it stay. An operation that succeeds
has found the directory that its path names, and only changes what is directly in it; making
directories is the one operation that changes more, and it only fills places where nothing was.
-/
namespace Conformance.FileTree

variable {t t' t'' : FileTree} {p : Path} {place q : Place} {name : String} {e : Entry}
  {bytes : List UInt8} {steps : List String}

/-- All directories of a tree are there in another one too. -/
structure Keeps (t t' : FileTree) : Prop where
  here : t'.here = t.here
  directory : ∀ {q}, t.at? q = some .directory → t'.at? q = some .directory

theorem Keeps.refl (t : FileTree) : Keeps t t :=
  ⟨rfl, id⟩

theorem Keeps.trans (h : Keeps t t') (h' : Keeps t' t'') : Keeps t t'' :=
  ⟨h'.here.trans h.here, h'.directory ∘ h.directory⟩

/-! ## Walking -/

def next (place : Place) (step : String) : Except FileError Place :=
  if step == "." then .ok place
  else if step == ".." then .ok place.dropLast
  else if longestName < step.utf8ByteSize then .error .nameTooLong
  else .ok (place ++ [step])

theorem walk_cons (hplace : t.at? place = some .directory) (step : String) (steps : List String) :
    t.walk place (step :: steps) = (next place step).bind (t.walk · steps) := by
  rw [walk, hplace, next]
  simp only
  split
  · rfl
  · split
    · rfl
    · split <;> rfl

theorem walk_cons_eq_ok {step : String} :
    t.walk place (step :: steps) = .ok q ↔ t.at? place = some .directory ∧
      ∃ place', next place step = .ok place' ∧ t.walk place' steps = .ok q := by
  constructor
  · intro h
    have hplace : t.at? place = some .directory := by
      rw [walk] at h
      split at h
      · cases h
      · cases h
      · next hplace => exact hplace
    rw [walk_cons hplace] at h
    exact ⟨hplace, Except.bind_eq_ok.mp h⟩
  · rintro ⟨hplace, h⟩
    rw [walk_cons hplace]
    exact Except.bind_eq_ok.mpr h

theorem walk_mono (hkeeps : Keeps t t') (h : t.walk place steps = .ok q) :
    t'.walk place steps = .ok q := by
  induction steps generalizing place with
  | nil => exact h
  | cons step steps ih =>
    obtain ⟨hplace, place', hnext, hwalk⟩ := walk_cons_eq_ok.mp h
    exact walk_cons_eq_ok.mpr ⟨hkeeps.directory hplace, place', hnext, ih hwalk⟩

theorem walk_append {xs ys : List String} :
    t.walk place (xs ++ ys) = .ok q ↔
      ∃ place', t.walk place xs = .ok place' ∧ t.walk place' ys = .ok q := by
  induction xs generalizing place with
  | nil =>
    constructor
    · intro h
      exact ⟨place, rfl, h⟩
    · rintro ⟨_, ⟨⟩, h⟩
      exact h
  | cons step xs ih =>
    rw [List.cons_append, walk_cons_eq_ok]
    constructor
    · rintro ⟨hplace, place', hnext, hwalk⟩
      obtain ⟨place'', hxs, hys⟩ := ih.mp hwalk
      exact ⟨place'', walk_cons_eq_ok.mpr ⟨hplace, place', hnext, hxs⟩, hys⟩
    · rintro ⟨place'', hwalk, hys⟩
      obtain ⟨hplace, place', hnext, hxs⟩ := walk_cons_eq_ok.mp hwalk
      exact ⟨hplace, place', hnext, ih.mpr ⟨place'', hxs, hys⟩⟩

theorem next_name (hname : Path.IsName name) :
    next place name = .ok q ↔ name.utf8ByteSize ≤ longestName ∧ q = place ++ [name] := by
  rw [next, if_neg (by simpa using hname.ne_here), if_neg (by simpa using hname.ne_up)]
  split
  · next hlong =>
    constructor
    · intro h
      cases h
    · intro h
      exact absurd h.1 (Nat.not_le.mpr hlong)
  · next hshort =>
    rw [Except.ok.injEq, and_iff_right (Nat.not_lt.mp hshort), eq_comm]

theorem walk_name (hname : Path.IsName name) :
    t.walk place [name] = .ok q ↔
      t.at? place = some .directory ∧ name.utf8ByteSize ≤ longestName ∧ q = place ++ [name] := by
  rw [walk_cons_eq_ok, ← next_name hname]
  apply and_congr_right
  intro _
  constructor
  · rintro ⟨_, hnext, h⟩
    cases h
    exact hnext
  · intro h
    exact ⟨q, h, rfl⟩

theorem prefix_of_next {step : String} (hup : step ≠ "..") (h : next place step = .ok q) :
    place <+: q := by
  rw [next] at h
  split at h
  · cases h
    exact List.prefix_rfl
  · rw [if_neg (by simpa using hup)] at h
    split at h
    · cases h
    · cases h
      exact List.prefix_append place [step]

theorem prefix_of_walk (hup : ".." ∉ steps) (h : t.walk place steps = .ok q) : place <+: q := by
  induction steps generalizing place with
  | nil =>
    cases h
    exact List.prefix_rfl
  | cons step steps ih =>
    rw [List.mem_cons, not_or] at hup
    obtain ⟨-, place', hnext, hwalk⟩ := walk_cons_eq_ok.mp h
    exact (prefix_of_next (Ne.symm hup.1) hnext).trans (ih hup.2 hwalk)

/-- A way that never goes up can be gone in any sound tree that has a directory at its end. -/
theorem IsSound.walk (hsound : t.IsSound) (hup : ".." ∉ steps) (h : t'.walk place steps = .ok q)
    (hq : t.at? q = some .directory) : t.walk place steps = .ok q := by
  induction steps generalizing place with
  | nil => exact h
  | cons step steps ih =>
    have hplace : t.at? place = some .directory := by
      by_cases heq : place = q
      · rwa [heq]
      · exact hsound.directory_of_prefix hq (prefix_of_walk hup h) heq
    rw [List.mem_cons, not_or] at hup
    obtain ⟨-, place', hnext, hwalk⟩ := walk_cons_eq_ok.mp h
    exact walk_cons_eq_ok.mpr ⟨hplace, place', hnext, ih hup.2 hwalk⟩

/-! ## Directories and their entries -/

/-- A path leads to the directory at a place. -/
structure LeadsTo (t : FileTree) (p : Path) (place : Place) : Prop where
  checked : checkPath p = .ok ()
  walk : t.walk (t.start p) p.steps = .ok place
  directory : t.at? place = some .directory

theorem LeadsTo.mono (h : t.LeadsTo p place) (hkeeps : Keeps t t') : t'.LeadsTo p place where
  checked := h.checked
  walk := by
    rw [start, hkeeps.here]
    exact walk_mono hkeeps h.walk
  directory := hkeeps.directory h.directory

theorem LeadsTo.unique (h : t.LeadsTo p place) (h' : t.LeadsTo p q) : place = q :=
  Except.ok.inj (h.walk.symm.trans h'.walk)

theorem checkPath_eq_ok : checkPath p = .ok () ↔
    '\x00' ∉ p.toList ∧ p ≠ "" ∧ p.utf8ByteSize < pathLimit := by
  rw [checkPath]
  by_cases hnul : '\x00' ∈ p.toList
  · simp [hnul]
  · by_cases hempty : p = ""
    · simp [hempty]
    · by_cases hlimit : pathLimit ≤ p.utf8ByteSize
      · simp [hnul, hempty, hlimit]
      · simp [hnul, hempty, hlimit, Nat.lt_of_not_le hlimit]

theorem checkPath_join_mono {rel : Path} (hrel : rel.isAbsolute = false) (hname : Path.IsName name)
    (hnul : '\x00' ∈ name.toList → '\x00' ∈ rel.toList)
    (hsize : name.utf8ByteSize ≤ rel.utf8ByteSize) (h : checkPath (p.join rel) = .ok ()) :
    checkPath (p.join name) = .ok () := by
  obtain ⟨mark, hjoin⟩ := Path.exists_join_eq p
  rw [checkPath_eq_ok, hjoin rel hrel] at h
  refine checkPath_eq_ok.mpr ⟨?_, Path.join_ne_empty hname p, ?_⟩
  · rw [hjoin name hname.isRelative, String.toList_append, List.mem_append]
    rw [String.toList_append, List.mem_append] at h
    exact fun hmem => h.1 (hmem.imp_right hnul)
  · rw [hjoin name hname.isRelative, String.utf8ByteSize_append]
    rw [String.utf8ByteSize_append] at h
    omega

theorem checkPath_of_join (hname : Path.IsName name) (hp : p ≠ "")
    (h : checkPath (p.join name) = .ok ()) : checkPath p = .ok () := by
  obtain ⟨mark, hjoin⟩ := Path.exists_join_eq p
  rw [checkPath_eq_ok, hjoin name hname.isRelative] at h
  refine checkPath_eq_ok.mpr ⟨fun hmem => h.1 ?_, hp, ?_⟩
  · rw [String.toList_append, String.toList_append]
    exact List.mem_append_left _ (List.mem_append_left _ hmem)
  · rw [String.utf8ByteSize_append, String.utf8ByteSize_append] at h
    omega

theorem ne_empty_of_checked (h : checkPath p = .ok ()) : p ≠ "" := by
  rintro rfl
  cases h

theorem LeadsTo.ne_empty (h : t.LeadsTo p place) : p ≠ "" :=
  ne_empty_of_checked h.checked

theorem locate_eq_ok : t.locate p = .ok q ↔ checkPath p = .ok () ∧
    ∃ place, t.walk (t.start p) p.steps = .ok place ∧
      t.walk place (if p.endsInSlash then ["."] else []) = .ok q := by
  rw [locate, Except.bind_eq_ok]
  constructor
  · rintro ⟨⟨⟩, hchecked, hwalk⟩
    exact ⟨hchecked, walk_append.mp hwalk⟩
  · rintro ⟨hchecked, hwalk⟩
    exact ⟨(), hchecked, walk_append.mpr hwalk⟩

theorem walk_end {b : Bool} (hplace : t.at? place = some .directory) :
    t.walk place (if b then ["."] else []) = .ok place := by
  cases b with
  | false => rfl
  | true => exact walk_cons_eq_ok.mpr ⟨hplace, place, rfl, rfl⟩

theorem LeadsTo.locate (h : t.LeadsTo p place) : t.locate p = .ok place :=
  locate_eq_ok.mpr ⟨h.checked, place, h.walk, walk_end h.directory⟩

theorem open?_eq_ok : t.open? p = .ok (q, e) ↔ t.locate p = .ok q ∧ t.at? q = some e := by
  rw [FileTree.open?, Except.bind_eq_ok]
  constructor
  · rintro ⟨place, hlocate, hrest⟩
    split at hrest
    · next hat =>
      cases hrest
      exact ⟨hlocate, hat⟩
    · cases hrest
  · rintro ⟨hlocate, hat⟩
    exact ⟨q, hlocate, by rw [hat]; rfl⟩

theorem open?_eq_notFound (hlocate : t.locate p = .ok q) (hq : t.at? q = none) :
    t.open? p = .error .notFound := by
  rw [FileTree.open?, hlocate]
  simp only [bind, Except.bind, hq]
  rfl

theorem listFiles_of_leadsTo (h : t.LeadsTo p place) : t.listFiles p = .ok (t.filesAt place) :=
  Except.bind_eq_ok.mpr ⟨_, open?_eq_ok.mpr ⟨h.locate, h.directory⟩, rfl⟩

theorem leadsTo_of_listFiles {names : List String} (h : t.listFiles p = .ok names) :
    ∃ place, t.LeadsTo p place ∧ names = t.filesAt place := by
  obtain ⟨⟨q, e⟩, hopen, hrest⟩ := Except.bind_eq_ok.mp h
  obtain ⟨hlocate, hat⟩ := open?_eq_ok.mp hopen
  obtain ⟨hchecked, place, hwalk, hend⟩ := locate_eq_ok.mp hlocate
  cases e with
  | file bytes => cases hrest
  | directory =>
    have hplace : place = q := by
      split at hend
      · obtain ⟨-, place', hnext, hnil⟩ := walk_cons_eq_ok.mp hend
        exact (Except.ok.inj hnext).trans (Except.ok.inj hnil)
      · exact Except.ok.inj hend
    subst hplace
    exact ⟨place, ⟨hchecked, hwalk, hat⟩, (Except.ok.inj hrest).symm⟩

theorem leadsTo_of_isDirectory (h : t.isDirectory p = true) : ∃ place, t.LeadsTo p place := by
  rw [isDirectory] at h
  split at h
  · next place hopen =>
    have hlist : t.listFiles p = .ok (t.filesAt place) := Except.bind_eq_ok.mpr ⟨_, hopen, rfl⟩
    obtain ⟨place', hlead, -⟩ := leadsTo_of_listFiles hlist
    exact ⟨place', hlead⟩
  · cases h

theorem locate_join (hp : p ≠ "") (hname : Path.IsName name) :
    t.locate (p.join name) = .ok q ↔ checkPath (p.join name) = .ok () ∧
      ∃ place, t.walk (t.start p) p.steps = .ok place ∧ t.at? place = some .directory ∧
        name.utf8ByteSize ≤ longestName ∧ q = place ++ [name] := by
  have hstart : t.start (p.join name) = t.start p := by
    rw [start, start, Path.isAbsolute_join hp hname.isRelative]
  rw [locate_eq_ok, hstart, Path.steps_join hname, Path.endsInSlash_join hp hname]
  apply and_congr_right
  intro _
  constructor
  · rintro ⟨place, hwalk, hend⟩
    cases hend
    obtain ⟨place, hp, hlast⟩ := walk_append.mp hwalk
    exact ⟨place, hp, (walk_name hname).mp hlast⟩
  · rintro ⟨place, hp, hlast⟩
    exact ⟨q, walk_append.mpr ⟨place, hp, (walk_name hname).mpr hlast⟩, rfl⟩

theorem leadsTo_of_locate_join (hchecked : checkPath p = .ok ()) (hname : Path.IsName name)
    (h : t.locate (p.join name) = .ok q) : ∃ place, t.LeadsTo p place ∧ q = place ++ [name] := by
  obtain ⟨-, place, hwalk, hplace, -, hq⟩ :=
    (locate_join (ne_empty_of_checked hchecked) hname).mp h
  exact ⟨place, ⟨hchecked, hwalk, hplace⟩, hq⟩

theorem LeadsTo.place_of_locate (h : t.LeadsTo p place) (hname : Path.IsName name)
    (hlocate : t.locate (p.join name) = .ok q) : q = place ++ [name] := by
  obtain ⟨place', hlead, rfl⟩ := leadsTo_of_locate_join h.checked hname hlocate
  rw [h.unique hlead]

theorem locate_mono (hkeeps : Keeps t t') (h : t.locate p = .ok q) : t'.locate p = .ok q := by
  obtain ⟨⟨⟩, hchecked, hwalk⟩ := Except.bind_eq_ok.mp h
  refine Except.bind_eq_ok.mpr ⟨(), hchecked, ?_⟩
  rw [start, hkeeps.here]
  exact walk_mono hkeeps hwalk

/-! ## Changes -/

theorem readBytes_of_file {bytes : List UInt8} (hlocate : t.locate p = .ok q)
    (hat : t.at? q = some (.file bytes)) : t.readBytes p = .ok bytes :=
  Except.bind_eq_ok.mpr ⟨_, open?_eq_ok.mpr ⟨hlocate, hat⟩, rfl⟩

theorem ne_nil_of_free (h : t.at? q ≠ some .directory) : q ≠ [] := by
  rintro rfl
  exact h rfl

theorem keeps_put_file (h : t.at? q ≠ some .directory) (bytes : List UInt8) :
    Keeps t (t.put q (.file bytes)) where
  here := rfl
  directory hq := by
    rw [at?_put (ne_nil_of_free h), if_neg (by rintro rfl; exact h hq)]
    exact hq

theorem keeps_erase (h : t.at? q ≠ some .directory) : Keeps t (t.erase q) where
  here := rfl
  directory hq := by
    rw [at?_erase (ne_nil_of_free h), if_neg (by rintro rfl; exact h hq)]
    exact hq

theorem at?_move {source target : Place} (hsource : source ≠ []) (htarget : target ≠ [])
    (q : Place) :
    ((t.erase source).put target e).at? q =
      if q = target then some e else if q = source then none else t.at? q := by
  rw [at?_put htarget, at?_erase hsource]

theorem keeps_move {source target : Place} (hsource : t.at? source ≠ some .directory)
    (htarget : t.at? target ≠ some .directory) (bytes : List UInt8) :
    Keeps t ((t.erase source).put target (.file bytes)) := by
  refine (keeps_erase hsource).trans (keeps_put_file ?_ bytes)
  rw [at?_erase (ne_nil_of_free hsource)]
  split
  · simp
  · exact htarget

theorem writeFile_eq_ok (h : t.writeFile p bytes = .ok t') :
    ∃ q, t.locate p = .ok q ∧ t.at? q ≠ some .directory ∧ t' = t.put q (.file bytes) := by
  obtain ⟨q, hlocate, hrest⟩ := Except.bind_eq_ok.mp h
  split at hrest
  · cases hrest
  · next hq => exact ⟨q, hlocate, by simpa [isDirectoryAt] using hq, (Except.ok.inj hrest).symm⟩

theorem removeFile_eq_ok (h : t.removeFile p = .ok t') :
    ∃ q bytes, t.locate p = .ok q ∧ t.at? q = some (.file bytes) ∧ t' = t.erase q := by
  obtain ⟨⟨q, e⟩, hopen, hrest⟩ := Except.bind_eq_ok.mp h
  obtain ⟨hlocate, hat⟩ := open?_eq_ok.mp hopen
  cases e with
  | file bytes => exact ⟨q, bytes, hlocate, hat, (Except.ok.inj hrest).symm⟩
  | directory => cases hrest

theorem moveFile_eq_ok {source target : Path} (h : t.moveFile source target = .ok t') :
    ∃ q q' bytes, t.locate source = .ok q ∧ t.at? q = some (.file bytes) ∧
      t.locate target = .ok q' ∧ t.at? q' ≠ some .directory ∧
      t' = (t.erase q).put q' (.file bytes) := by
  obtain ⟨⟨q, e⟩, hopen, hrest⟩ := Except.bind_eq_ok.mp h
  obtain ⟨hlocate, hat⟩ := open?_eq_ok.mp hopen
  cases e with
  | directory => cases hrest
  | file bytes =>
    obtain ⟨q', hlocate', hrest⟩ := Except.bind_eq_ok.mp hrest
    split at hrest
    · cases hrest
    · next hq' =>
      exact ⟨q, q', bytes, hlocate, hat, hlocate', by simpa [isDirectoryAt] using hq',
        (Except.ok.inj hrest).symm⟩

theorem keeps_writeFile (h : t.writeFile p bytes = .ok t') : Keeps t t' := by
  obtain ⟨q, -, hfree, rfl⟩ := writeFile_eq_ok h
  exact keeps_put_file hfree bytes

theorem keeps_moveFile {source target : Path} (h : t.moveFile source target = .ok t') :
    Keeps t t' := by
  obtain ⟨q, q', bytes, -, hat, -, hfree, rfl⟩ := moveFile_eq_ok h
  exact keeps_move (by simp [hat]) hfree bytes

/-- A tree holds what another one does, and perhaps more directories. -/
structure Grows (t t' : FileTree) : Prop where
  here : t'.here = t.here
  at?_eq : ∀ q, t'.at? q = t.at? q ∨ t.at? q = none ∧ t'.at? q = some .directory

theorem Grows.refl (t : FileTree) : Grows t t :=
  ⟨rfl, fun _ => .inl rfl⟩

theorem Grows.trans (h : Grows t t') (h' : Grows t' t'') : Grows t t'' where
  here := h'.here.trans h.here
  at?_eq q := by
    rcases h'.at?_eq q with heq' | ⟨hnone, hdirectory⟩
    · rw [heq']
      exact h.at?_eq q
    · rcases h.at?_eq q with heq | ⟨hnone', -⟩
      · exact .inr ⟨heq ▸ hnone, hdirectory⟩
      · exact .inr ⟨hnone', hdirectory⟩

theorem Grows.keeps (h : Grows t t') : Keeps t t' where
  here := h.here
  directory {q} hq := by
    rcases h.at?_eq q with heq | ⟨hnone, -⟩
    · rw [heq, hq]
    · rw [hq] at hnone
      cases hnone

theorem Grows.file (h : Grows t t') : t'.at? q = some (.file bytes) ↔ t.at? q = some (.file bytes) := by
  rcases h.at?_eq q with heq | ⟨hnone, hdirectory⟩
  · rw [heq]
  · simp [hnone, hdirectory]

theorem makeDirectory_grows (h : t.makeDirectory place steps = .ok t') : Grows t t' := by
  obtain ⟨q, -, hrest⟩ := Except.bind_eq_ok.mp h
  split at hrest
  · cases hrest
  · next hq =>
    cases hrest
    have hne : q ≠ [] := by
      rintro rfl
      cases hq
    refine ⟨rfl, ?_⟩
    intro q'
    rw [at?_put hne]
    split
    · next heq => exact .inr ⟨heq ▸ hq, rfl⟩
    · exact .inl rfl

theorem makeAll_grows (t : FileTree) (place : Place) (ways : List (List String)) :
    Grows t (t.makeAll place ways).2 := by
  induction ways with
  | nil => exact .refl t
  | cons way ways ih =>
    rw [makeAll]
    split
    · next hmake => exact makeDirectory_grows hmake
    · split
      · next hmore =>
        rw [hmore] at ih
        exact ih
      · next hmore =>
        rw [hmore] at ih
        split
        · next hmake => exact ih.trans (makeDirectory_grows hmake)
        · exact ih
    · exact .refl t

theorem checked_of_makeDirectories (h : t.makeDirectories p = (.ok (), t')) :
    checkPath p = .ok () := by
  rw [makeDirectories] at h
  split at h
  · cases h
  · next hchecked => exact hchecked

theorem makeDirectories_grows (t : FileTree) (p : Path) : Grows t (t.makeDirectories p).2 := by
  rw [makeDirectories]
  split
  · exact .refl t
  · exact makeAll_grows t _ _

end Conformance.FileTree
