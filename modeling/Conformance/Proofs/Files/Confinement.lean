import Conformance.Proofs.Files.Absence

/-!
# Confined changes

A change is confined to some places if all others stay as they are, but for directories that are made
where nothing was. What is listed under a path then stays the same: a directory that was missing may
be there afterwards, but has no files.
-/
namespace Conformance.FileTree

variable {t t' t'' : FileTree} {p : Path} {place q : Place} {name : String} {e : Entry}
  {bytes : List UInt8} {steps : List String} {within : Place → Prop} {keep : String → Bool}

structure Confined (within : Place → Prop) (t t' : FileTree) : Prop where
  keeps : t.Keeps t'
  outside : ∀ q, ¬ within q → t'.at? q = t.at? q ∨ t.at? q = none ∧ t'.at? q = some .directory

theorem Confined.refl (within : Place → Prop) (t : FileTree) : Confined within t t :=
  ⟨.refl t, fun _ _ => .inl rfl⟩

theorem Confined.trans (h : Confined within t t') (h' : Confined within t' t'') :
    Confined within t t'' where
  keeps := h.keeps.trans h'.keeps
  outside q hq := by
    rcases h'.outside q hq with heq | ⟨hnone, hdirectory⟩
    · rw [heq]
      exact h.outside q hq
    · rcases h.outside q hq with heq | ⟨hnone', -⟩
      · exact .inr ⟨heq ▸ hnone, hdirectory⟩
      · exact .inr ⟨hnone', hdirectory⟩

theorem Grows.confined (h : Grows t t') (within : Place → Prop) : Confined within t t' :=
  ⟨h.keeps, fun q _ => h.at?_eq q⟩

theorem confined_put (hfree : t.at? q ≠ some .directory) (hq : within q) (bytes : List UInt8) :
    Confined within t (t.put q (.file bytes)) where
  keeps := keeps_put_file hfree bytes
  outside q' hq' := by
    have hne : q' ≠ q := fun heq => hq' (heq ▸ hq)
    rw [at?_put (ne_nil_of_free hfree), if_neg hne]
    exact .inl rfl

theorem confined_erase (hfree : t.at? q ≠ some .directory) (hq : within q) :
    Confined within t (t.erase q) where
  keeps := keeps_erase hfree
  outside q' hq' := by
    have hne : q' ≠ q := fun heq => hq' (heq ▸ hq)
    rw [at?_erase (ne_nil_of_free hfree), if_neg hne]
    exact .inl rfl

theorem Confined.file (h : Confined within t t') (hq : ¬ within q) :
    t'.at? q = some (.file bytes) ↔ t.at? q = some (.file bytes) := by
  rcases h.outside q hq with heq | ⟨hnone, hdirectory⟩
  · rw [heq]
  · simp [hnone, hdirectory]

theorem Confined.filter_filesAt (h : Confined within t t') (keep : String → Bool)
    (hin : ∀ name, keep name = true → ¬ within (place ++ [name])) :
    (t'.filesAt place).filter keep = (t.filesAt place).filter keep := by
  apply eq_of_ascending ((t'.pairwise_filesAt place).filter keep)
    ((t.pairwise_filesAt place).filter keep)
  intro name
  rw [List.mem_filter, List.mem_filter, mem_filesAt, mem_filesAt]
  apply and_congr_left
  intro hkeep
  simp only [h.file (hin name hkeep)]

theorem Confined.filesAt (h : Confined within t t') (hin : ∀ name, ¬ within (place ++ [name])) :
    t'.filesAt place = t.filesAt place := by
  simpa using h.filter_filesAt (fun _ => true) fun name _ => hin name

/-! ## Listings -/

/-- The path goes up, and to overlong names, through directories that are there. -/
def IsClear (t : FileTree) (p : Path) : Prop :=
  t.walk (t.start p) p.steps = .error .nameTooLong ∨
    ∃ front back, p.steps = front ++ back ∧ (∃ q, t.walk (t.start p) front = .ok q) ∧
      IsPlainWay back

theorem isClear_of_isPlainWay (h : IsPlainWay p.steps) : t.IsClear p :=
  .inr ⟨[], p.steps, rfl, ⟨_, rfl⟩, h⟩

theorem LeadsTo.isClear (h : t.LeadsTo p place) : t.IsClear p := by
  refine .inr ⟨p.steps, [], by simp, ⟨place, h.walk⟩, ?_⟩
  simp [IsPlainWay]

theorem isClear_join (hname : Path.IsName name) (hwalk : t.walk (t.start p) p.steps = .ok q)
    (hq : t.at? q = some .directory) : t.IsClear (p.join name) := by
  rw [IsClear, start_join hname, Path.steps_join hname]
  by_cases hlong : longestName < name.utf8ByteSize
  · left
    rw [walk_append_eq, hwalk]
    show t.walk q [name] = _
    rw [walk_cons hq, next, if_neg (by simpa using hname.ne_here), if_neg (by simpa using hname.ne_up),
      if_pos hlong]
    rfl
  · right
    refine ⟨p.steps, [name], rfl, ⟨q, hwalk⟩, ?_⟩
    intro step hstep
    rw [List.mem_singleton.mp hstep]
    exact ⟨hname.ne_up, by omega⟩

section Unseen
/- None of the places that may change is one that a path leads to or has in its directory, nor on the
way to it, unless it is a directory and remains one. -/
variable (h : Confined within t t')
  (hway : ∀ q, within q → q <+: t.target p → t.at? q = some .directory)
include h hway

theorem file_of_prefix (hq : q <+: t.target p) :
    t'.at? q = some (.file bytes) ↔ t.at? q = some (.file bytes) := by
  by_cases hwithin : within q
  · have hdirectory := hway q hwithin hq
    simp [hdirectory, h.keeps.directory hdirectory]
  · exact h.file hwithin

theorem walk_of_isClear (hsound : t.IsSound) (hclear : t.IsClear p) :
    t'.walk (t.start p) (way p) = t.walk (t.start p) (way p) ∨
      t.walk (t.start p) (way p) = .error .notFound ∧
        t'.walk (t.start p) (way p) = .ok (t.target p) ∧ t.at? (t.target p) = none := by
  rcases hclear with hlong | ⟨front, back, hsteps, ⟨place, hfront⟩, hplain⟩
  · have hthen : t.walk (t.start p) (way p) = .error .nameTooLong := by
      rw [way, walk_append_eq, hlong]
      rfl
    rw [hthen]
    exact .inl (walk_error_mono h.keeps (by decide) (fun heq => absurd heq (by decide)) hthen)
  · have hplain := isPlainWay_append_end hplain p.endsInSlash
    have hway' : way p = front ++ (back ++ if p.endsInSlash then ["."] else []) := by
      rw [way, hsteps, List.append_assoc]
    generalize (back ++ if p.endsInSlash then ["."] else []) = rest at hplain hway'
    have htarget : t.target p = rest.foldl advance place := by
      rw [← foldl_way, hway', List.foldl_append, ← walk_eq_foldl hfront]
    have hpassed : ∀ q ∈ passed place rest, ∀ bytes,
        t'.at? q = some (.file bytes) ↔ t.at? q = some (.file bytes) := by
      intro q hq bytes
      apply file_of_prefix h hway
      rw [htarget]
      exact prefix_of_mem_passed hplain.up_not_mem hq
    rw [hway', walk_append_eq, walk_append_eq, hfront, walk_mono h.keeps hfront, htarget]
    show t'.walk place rest = t.walk place rest ∨ t.walk place rest = _ ∧ t'.walk place rest = _ ∧ _
    cases hthen : t.walk place rest with
    | ok q => exact .inl (walk_mono h.keeps hthen)
    | error cause =>
      by_cases hcause : cause = .notFound
      · subst hcause
        exact (hsound.walk_of_notFound h.keeps hplain (fun q hq bytes => (hpassed q hq bytes).mp)
          hthen).imp_right fun hnow => ⟨rfl, hnow⟩
      · exact .inl (walk_error_mono h.keeps hcause (fun _ q hq bytes => (hpassed q hq bytes).mpr)
          hthen)

theorem listed_target (hsound : t.IsSound)
    (hin : ∀ name, keep name = true → ¬ within (t.target p ++ [name])) :
    (t'.listed (t.target p)).map (List.filter keep) = (t.listed (t.target p)).map (List.filter keep) ∨
      t.listed (t.target p) = .error .notFound ∧
        (t'.listed (t.target p)).map (List.filter keep) = .ok [] := by
  have hself : ∀ bytes, t'.at? (t.target p) = some (.file bytes) ↔
      t.at? (t.target p) = some (.file bytes) :=
    fun bytes => file_of_prefix h hway List.prefix_rfl
  cases hat : t.at? (t.target p) with
  | none =>
    have hthen : t.listed (t.target p) = .error .notFound := by rw [listed, hat]
    rcases hsound.listed_of_none keep (fun bytes => (hself bytes).mp)
      (fun name bytes hkeep => (h.file (hin name hkeep)).mp) hat with hnow | ⟨names, hnow, hnames⟩
    · exact .inl (by rw [hnow, hthen])
    · exact .inr ⟨hthen, by rw [hnow, Except.map, hnames]⟩
  | some e =>
    left
    cases e with
    | file bytes => rw [listed, listed, hat, (hself bytes).mpr hat]
    | directory =>
      rw [listed, listed, hat, h.keeps.directory hat]
      exact congrArg Except.ok (h.filter_filesAt keep hin)

/-- A directory is listed as before, or was missing and has none of the names. -/
theorem listFiles_of_isClear (hsound : t.IsSound)
    (hin : ∀ name, keep name = true → ¬ within (t.target p ++ [name])) (hclear : t.IsClear p) :
    (t'.listFiles p).map (List.filter keep) = (t.listFiles p).map (List.filter keep) ∨
      t.listFiles p = .error .notFound ∧ (t'.listFiles p).map (List.filter keep) = .ok [] := by
  have hlisted := listed_target h hway hsound hin
  rw [listFiles_eq, listFiles_eq, locate_eq, locate_eq, start, h.keeps.here, ← start]
  cases checkPath p with
  | error cause => exact .inl rfl
  | ok _ =>
    simp only [Except.bind]
    rcases walk_of_isClear h hway hsound hclear with hsame | ⟨hthen, hnow, hnone⟩
    · rw [hsame]
      cases hwalk : t.walk (t.start p) (way p) with
      | error cause => exact .inl rfl
      | ok q =>
        obtain rfl := (walk_eq_foldl hwalk).trans (foldl_way t p)
        exact hlisted
    · have hthen' : t.listed (t.target p) = .error .notFound := by rw [listed, hnone]
      rw [hthen, hnow]
      rw [hthen'] at hlisted
      exact hlisted.imp_right fun hnow => ⟨rfl, hnow.2⟩

end Unseen

end Conformance.FileTree
