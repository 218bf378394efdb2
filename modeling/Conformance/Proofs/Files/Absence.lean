import Conformance.Proofs.Files.Route

/-!
# Directories that are not there

A way that was not open because a directory on it was missing may be open later on. If it goes neither
up nor through overlong names, and no file was put on it, it then leads to where nothing was.
-/
namespace Conformance.FileTree

variable {t t' : FileTree} {p : Path} {place q : Place} {step name : String} {steps : List String}
  {cause : FileError}

/-! ## Plain ways -/

def IsPlainWay (steps : List String) : Prop :=
  ∀ step ∈ steps, step ≠ ".." ∧ step.utf8ByteSize ≤ longestName

instance (steps : List String) : Decidable (IsPlainWay steps) :=
  inferInstanceAs (Decidable (∀ step ∈ steps, step ≠ ".." ∧ step.utf8ByteSize ≤ longestName))

theorem IsPlainWay.up_not_mem (h : IsPlainWay steps) : ".." ∉ steps :=
  fun hmem => (h _ hmem).1 rfl

theorem isPlainWay_append_end (h : IsPlainWay steps) (b : Bool) :
    IsPlainWay (steps ++ if b then ["."] else []) := by
  intro step hstep
  rcases List.mem_append.mp hstep with hstep | hstep
  · exact h step hstep
  · split at hstep
    · rw [List.mem_singleton.mp hstep]
      decide
    · cases hstep

theorem next_plain (h : step ≠ ".." ∧ step.utf8ByteSize ≤ longestName) (place : Place) :
    next place step = .ok (advance place step) := by
  have hlong : ¬ longestName < step.utf8ByteSize := by omega
  simp only [next, advance, beq_iff_eq, h.1, hlong, if_false]
  split <;> rfl

theorem prefix_advance (hup : step ≠ "..") (place : Place) : place <+: advance place step := by
  rw [advance]
  split
  · exact List.prefix_rfl
  · rw [if_neg (by simpa using hup)]
    exact List.prefix_append place [step]

theorem prefix_foldl_advance (hup : ".." ∉ steps) (place : Place) :
    place <+: steps.foldl advance place := by
  induction steps generalizing place with
  | nil => exact List.prefix_rfl
  | cons step steps ih =>
    rw [List.mem_cons, not_or] at hup
    exact (prefix_advance (Ne.symm hup.1) place).trans (ih hup.2 _)

theorem prefix_of_mem_passed (hup : ".." ∉ steps) (hq : q ∈ passed place steps) :
    q <+: steps.foldl advance place := by
  induction steps generalizing place with
  | nil =>
    rw [List.mem_singleton.mp hq]
    exact List.prefix_rfl
  | cons step steps ih =>
    rcases List.mem_cons.mp hq with rfl | hq
    · exact prefix_foldl_advance hup q
    · rw [List.mem_cons, not_or] at hup
      exact ih hup.2 hq

theorem walk_of_free (hplain : IsPlainWay steps)
    (hfree : ∀ q ∈ passed place steps, ∀ bytes, t.at? q ≠ some (.file bytes)) :
    t.walk place steps = .error .notFound ∨ t.walk place steps = .ok (steps.foldl advance place) := by
  induction steps generalizing place with
  | nil => exact .inr rfl
  | cons step steps ih =>
    rw [passed, List.forall_mem_cons] at hfree
    rw [IsPlainWay, List.forall_mem_cons] at hplain
    cases hat : t.at? place with
    | none => exact .inl (by rw [FileTree.walk, hat])
    | some e =>
      cases e with
      | file bytes => exact absurd hat (hfree.1 bytes)
      | directory =>
        rw [walk_cons hat, next_plain hplain.1]
        exact ih hplain.2 hfree.2

/-! ## Ways that are not open -/

theorem IsSound.at?_advance (hsound : t.IsSound) (hup : step ≠ "..") (hplace : t.at? place = none) :
    t.at? (advance place step) = none := by
  rw [advance]
  split
  · exact hplace
  · rw [if_neg (by simpa using hup)]
    cases hat : t.at? (place ++ [step]) with
    | none => rfl
    | some e =>
      rw [hsound.directory hat] at hplace
      cases hplace

theorem IsSound.at?_passed (hsound : t.IsSound) (hup : ".." ∉ steps)
    (hplace : t.at? place = none) (hq : q ∈ passed place steps) : t.at? q = none := by
  induction steps generalizing place with
  | nil => rwa [List.mem_singleton.mp hq]
  | cons step steps ih =>
    rw [List.mem_cons, not_or] at hup
    rcases List.mem_cons.mp hq with rfl | hq
    · exact hplace
    · exact ih hup.2 (hsound.at?_advance (Ne.symm hup.1) hplace) hq

/-- Where nothing was, a way meets no file as long as none was put on it. -/
theorem IsSound.walk_of_none (hsound : t.IsSound) (hplain : IsPlainWay steps)
    (hfile : ∀ q ∈ passed place steps, ∀ bytes,
      t'.at? q = some (.file bytes) → t.at? q = some (.file bytes))
    (hplace : t.at? place = none) : t'.walk place steps = .error .notFound ∨
      t'.walk place steps = .ok (steps.foldl advance place) := by
  refine walk_of_free hplain fun q hq bytes hat => ?_
  have hnone := hsound.at?_passed hplain.up_not_mem hplace hq
  rw [hfile q hq bytes hat] at hnone
  cases hnone

/-- A way that something was missing on still misses it, or leads to where nothing was. -/
theorem IsSound.walk_of_notFound (hsound : t.IsSound) (hkeeps : Keeps t t')
    (hplain : IsPlainWay steps)
    (hfile : ∀ q ∈ passed place steps, ∀ bytes,
      t'.at? q = some (.file bytes) → t.at? q = some (.file bytes))
    (h : t.walk place steps = .error .notFound) : t'.walk place steps = .error .notFound ∨
      t'.walk place steps = .ok (steps.foldl advance place) ∧
        t.at? (steps.foldl advance place) = none := by
  induction steps generalizing place with
  | nil => cases h
  | cons step steps ih =>
    cases hat : t.at? place with
    | none =>
      have hend := hsound.at?_passed hplain.up_not_mem hat (foldl_mem_passed place (step :: steps))
      exact (hsound.walk_of_none hplain hfile hat).imp_right fun hwalk => ⟨hwalk, hend⟩
    | some e =>
      cases e with
      | file bytes =>
        rw [FileTree.walk, hat] at h
        cases h
      | directory =>
        rw [passed, List.forall_mem_cons] at hfile
        rw [IsPlainWay, List.forall_mem_cons] at hplain
        rw [walk_cons hat, next_plain hplain.1] at h
        rw [walk_cons (hkeeps.directory hat), next_plain hplain.1]
        exact ih hplain.2 hfile.2 h

/-- A way that a file or an overlong name is on stays closed while the file stays. -/
theorem walk_error_mono (hkeeps : Keeps t t') (hcause : cause ≠ .notFound)
    (hfile : cause = .notADirectory → ∀ q ∈ passed place steps, ∀ bytes,
      t.at? q = some (.file bytes) → t'.at? q = some (.file bytes))
    (h : t.walk place steps = .error cause) : t'.walk place steps = .error cause := by
  induction steps generalizing place with
  | nil => cases h
  | cons step steps ih =>
    cases hat : t.at? place with
    | none =>
      rw [walk, hat] at h
      exact absurd (Except.error.inj h).symm hcause
    | some e =>
      cases e with
      | file bytes =>
        rw [walk, hat] at h
        obtain rfl := Except.error.inj h
        rw [walk, hfile rfl place List.mem_cons_self bytes hat]
      | directory =>
        rw [walk_cons hat] at h
        rw [walk_cons (hkeeps.directory hat)]
        cases hnext : next place step with
        | error cause' =>
          rw [hnext] at h
          exact h
        | ok place' =>
          rw [hnext] at h
          obtain rfl := advance_of_next hnext
          exact ih (fun hnot q hq => hfile hnot q (List.mem_cons_of_mem _ hq)) h

/-! ## Listings -/

theorem IsSound.listed_of_none (hsound : t.IsSound) (keep : String → Bool)
    (hself : ∀ bytes, t'.at? q = some (.file bytes) → t.at? q = some (.file bytes))
    (hfile : ∀ name bytes, keep name = true → t'.at? (q ++ [name]) = some (.file bytes) →
      t.at? (q ++ [name]) = some (.file bytes))
    (h : t.at? q = none) : t'.listed q = .error .notFound ∨
      ∃ names, t'.listed q = .ok names ∧ names.filter keep = [] := by
  rw [listed]
  cases hat : t'.at? q with
  | none => exact .inl rfl
  | some e =>
    cases e with
    | file bytes =>
      rw [hself _ hat] at h
      cases h
    | directory =>
      refine .inr ⟨_, rfl, List.filter_eq_nil_iff.mpr ?_⟩
      intro name hname hkeep
      obtain ⟨bytes, hname⟩ := mem_filesAt.mp hname
      rw [hsound.directory (hfile _ _ hkeep hname)] at h
      cases h

theorem foldl_way (t : FileTree) (p : Path) : (way p).foldl advance (t.start p) = t.target p := by
  rw [way, List.foldl_append]
  split <;> rfl

/-- A directory that could not be found has no files once it is there. -/
theorem IsSound.listFiles_of_notFound (hsound : t.IsSound) (hkeeps : Keeps t t')
    (hplain : IsPlainWay p.steps)
    (hfile : ∀ q bytes, t'.at? q = some (.file bytes) → t.at? q = some (.file bytes))
    (h : t.listFiles p = .error .notFound) :
    t'.listFiles p = .error .notFound ∨ t'.listFiles p = .ok [] := by
  have hplain' : IsPlainWay (way p) := isPlainWay_append_end hplain _
  rw [listFiles_eq, locate_eq] at h ⊢
  rw [start, hkeeps.here, ← start]
  cases hchecked : checkPath p with
  | error cause =>
    rw [hchecked] at h
    exact .inl h
  | ok _ =>
    rw [hchecked] at h
    have hwalk : t'.walk (t.start p) (way p) = .error .notFound ∨
        t'.walk (t.start p) (way p) = .ok (t.target p) ∧ t.at? (t.target p) = none := by
      cases hthen : t.walk (t.start p) (way p) with
      | error cause =>
        simp only [Except.bind, hthen] at h
        obtain rfl := Except.error.inj h
        rw [← foldl_way]
        exact hsound.walk_of_notFound hkeeps hplain' (fun q _ => hfile q) hthen
      | ok q =>
        obtain rfl := (walk_eq_foldl hthen).trans (foldl_way t p)
        refine .inr ⟨walk_mono hkeeps hthen, ?_⟩
        simp only [Except.bind, hthen, listed] at h
        split at h
        · next hnone => exact hnone
        · cases h
        · cases h
    rcases hwalk with hwalk | ⟨hwalk, hnone⟩
    · exact .inl (by simp only [Except.bind, hwalk])
    · have hlisted := hsound.listed_of_none (fun _ => true) (hfile _)
        (fun name bytes _ => hfile _ bytes) hnone
      simpa [Except.bind, hwalk] using hlisted

end Conformance.FileTree
