import Conformance.Proofs.Files.Route
import Conformance.Proofs.Store.Failure

/-!
# Shelves of stores in file trees

Under each of the two paths of a store there is a directory for each device with a file for each of
its artifacts. Which files there are can be told from what is at their places alone, also while the
directories are still to be made.
-/
namespace Conformance

/-- The failures that are due to the system: all but those of decoding and of looking up. -/
def StoreError.IsSystemFailure : StoreError → Prop
  | .files _ cause => cause ≠ .notText
  | _ => False

instance (cause : StoreError) : Decidable cause.IsSystemFailure :=
  match cause with
  | .files _ cause => inferInstanceAs (Decidable (cause ≠ .notText))
  | .corrupt _ => isFalse id
  | .notFound _ _ _ => isFalse id

def SystemFails {α : Type} (answer : Except StoreError α) : Prop :=
  ∃ cause, answer = .error cause ∧ cause.IsSystemFailure

instance {α : Type} (answer : Except StoreError α) : Decidable (SystemFails answer) :=
  match answer with
  | .ok _ => isFalse nofun
  | .error cause => decidable_of_iff cause.IsSystemFailure
    ⟨fun h => ⟨cause, rfl, h⟩, fun ⟨_, heq, h⟩ => Except.error.inj heq ▸ h⟩

namespace FileTree

variable {t t' : FileTree} {p root : Path} {place q : Place} {device name : String}
  {content content' : String → String → Option (List UInt8)} {bytes : List UInt8}

/-! ## Places of artifacts -/

/-- A place for an artifact: a name in the directory of a device. -/
def IsShelf (root q : Place) : Prop :=
  ∃ device name, q = root ++ [device, name]

instance (root q : Place) : Decidable (IsShelf root q) :=
  decidable_of_iff (root <+: q ∧ q.length = root.length + 2) <| by
    constructor
    · rintro ⟨⟨rest, rfl⟩, hlength⟩
      rw [List.length_append, Nat.add_left_cancel_iff, List.length_eq_two] at hlength
      obtain ⟨device, name, rfl⟩ := hlength
      exact ⟨device, name, rfl⟩
    · rintro ⟨device, name, rfl⟩
      exact ⟨List.prefix_append _ _, List.length_append⟩

theorem target_congr (h : t'.here = t.here) (p : Path) : t'.target p = t.target p := by
  rw [target, target, start, h]
  rfl

/-- Under a path there is a file for each artifact of a device, and nothing else. -/
structure Shelves (t : FileTree) (p : Path)
    (content : String → String → Option (List UInt8)) : Prop where
  at?_eq : ∀ device name, t.at? (t.target p ++ [device, name]) = (content device name).map .file
  leadsTo : ∀ device name, content device name ≠ none →
    t.LeadsTo (p.join device) (t.target p ++ [device])

theorem Shelves.at?_name (h : Shelves t p content) (device name : String) :
    t.at? (t.target p ++ [device] ++ [name]) = (content device name).map .file := by
  rw [List.append_assoc]
  exact h.at?_eq device name

theorem Shelves.at?_ne_directory (h : Shelves t p content) (device name : String) :
    t.at? (t.target p ++ [device, name]) ≠ some .directory := by
  rw [h.at?_eq]
  cases content device name <;> simp

theorem Shelves.mem_filesAt (h : Shelves t p content) :
    name ∈ t.filesAt (t.target p ++ [device]) ↔ content device name ≠ none := by
  rw [FileTree.mem_filesAt, h.at?_name]
  cases content device name <;> simp

/-- Directories stay; artifacts are put into directories that are there then. -/
theorem Shelves.change (h : Shelves t p content) (hkeeps : t.Keeps t')
    (hat : ∀ device name,
      t'.at? (t.target p ++ [device, name]) = (content' device name).map .file)
    (hnew : ∀ device name, content' device name ≠ none → content device name ≠ none ∨
      t'.LeadsTo (p.join device) (t.target p ++ [device])) : Shelves t' p content' := by
  constructor
  · intro device name
    rw [target_congr hkeeps.here, hat]
  · intro device name hcontent
    rw [target_congr hkeeps.here]
    rcases hnew device name hcontent with hold | hlead
    · exact (h.leadsTo device name hold).mono hkeeps
    · exact hlead

theorem Shelves.put (h : Shelves t p content) (name : String) (bytes : List UInt8)
    (hkeeps : t.Keeps t')
    (hlead : t'.LeadsTo (p.join device) (t.target p ++ [device]))
    (hat : ∀ device' name', t'.at? (t.target p ++ [device', name']) =
      if device' = device ∧ name' = name then some (.file bytes)
      else t.at? (t.target p ++ [device', name']))
    (hcontent : ∀ device' name', content' device' name' =
      if device' = device ∧ name' = name then some bytes else content device' name') :
    Shelves t' p content' := by
  refine h.change hkeeps (fun device' name' => ?_) fun device' name' hput => ?_
  · rw [hat, hcontent, h.at?_eq]
    split <;> rfl
  · rw [hcontent] at hput
    split at hput
    · next heq => exact .inr (heq.1 ▸ hlead)
    · exact .inl hput

theorem Shelves.keep (h : Shelves t p content) (hkeeps : t.Keeps t')
    (hat : ∀ device name,
      t'.at? (t.target p ++ [device, name]) = t.at? (t.target p ++ [device, name])) :
    Shelves t' p content :=
  h.change hkeeps (fun device name => (hat device name).trans (h.at?_eq device name))
    fun _ _ => .inl

/-! ## Reading -/

theorem Shelves.list_eq {keep : String → Bool} {names : List String} (h : Shelves t p content)
    (hdevice : Path.IsName device) (hnames : names.Pairwise (· < ·))
    (hmem : ∀ name, name ∈ names ↔ content device name ≠ none)
    (hkeep : ∀ name ∈ names, keep name = true) :
    SystemFails (Directories.list t (p.join device) keep) ∨
      Directories.list t (p.join device) keep = .ok names := by
  cases hlist : t.listFiles (p.join device) with
  | ok found =>
    obtain ⟨place, hlead, rfl⟩ := leadsTo_of_listFiles hlist
    rw [Directories.list, hlist]
    refine .inr (congrArg Except.ok ?_)
    refine eq_of_ascending ((t.pairwise_filesAt place).filter keep) hnames fun name => ?_
    rw [List.mem_filter, hlead.eq_target, target_join hdevice, h.mem_filesAt, ← hmem]
    exact and_iff_left_of_imp (hkeep name)
  | error cause =>
    have hcause : cause ≠ .notText := fun heq => listFiles_ne_notText t _ (heq ▸ hlist)
    rw [Directories.list, hlist]
    split
    · next heq => cases heq
    · refine .inr (congrArg Except.ok (List.eq_nil_iff_forall_not_mem.mpr fun name hname => ?_).symm)
      have hlead := h.leadsTo device name ((hmem name).mp hname)
      rw [listFiles_of_leadsTo hlead] at hlist
      cases hlist
    · next heq =>
      cases heq
      exact .inl ⟨_, rfl, hcause⟩

theorem Shelves.locate_ne_notFound (h : Shelves t p content) (hname : Path.IsName name)
    (hcontent : content device name ≠ none) :
    t.locate ((p.join device).join name) ≠ .error .notFound := by
  have hpath : ((p.join device).join name).isEmpty = false := by
    simpa using Path.join_ne_empty hname (p.join device)
  have hchecked : checkPath ((p.join device).join name) ≠ .error .notFound := by
    rw [checkPath, hpath]
    split
    · rintro ⟨⟩
    · rw [if_neg Bool.false_ne_true]
      split <;> rintro ⟨⟩
  rw [(h.leadsTo device name hcontent).locate_join hname]
  cases hthen : checkPath ((p.join device).join name) with
  | error cause =>
    rintro ⟨⟩
    exact hchecked hthen
  | ok _ =>
    show next (t.target p ++ [device]) name ≠ _
    rw [next, if_neg (by simpa using hname.ne_here), if_neg (by simpa using hname.ne_up)]
    split <;> rintro ⟨⟩

def orNotFound {α : Type} : Option α → Except FileError α
  | some a => .ok a
  | none => .error .notFound

/-- An artifact is read as it was put, if the system does not keep it from that. -/
theorem Shelves.readBytes (h : Shelves t p content) (hdevice : Path.IsName device)
    (hname : Path.IsName name) :
    (∃ cause ∈ [FileError.notADirectory, .nameTooLong, .nulInName],
      t.readBytes ((p.join device).join name) = .error cause) ∨
    t.readBytes ((p.join device).join name) = orNotFound (content device name) := by
  rw [FileTree.readBytes, FileTree.open?]
  cases hlocate : t.locate ((p.join device).join name) with
  | error cause =>
    by_cases hcause : cause = .notFound
    · subst hcause
      have hnone : content device name = none := by
        by_contra hcontent
        exact h.locate_ne_notFound hname hcontent hlocate
      rw [hnone]
      exact .inr rfl
    · have hmem := locate_error hlocate
      rw [List.mem_cons, or_iff_right hcause] at hmem
      exact .inl ⟨cause, hmem, rfl⟩
  | ok q =>
    obtain rfl := locate_join_target hname (Path.join_ne_empty hdevice p) hlocate
    rw [target_join hdevice]
    simp only [bind, Except.bind, h.at?_name]
    cases content device name <;> exact .inr rfl

theorem Shelves.readText {text? : Option String} (h : Shelves t p content)
    (hdevice : Path.IsName device) (hname : Path.IsName name)
    (hcontent : content device name = text?.map Text.toBytes) :
    (∃ cause ∈ [FileError.notADirectory, .nameTooLong, .nulInName],
      t.readText ((p.join device).join name) = .error cause) ∨
    t.readText ((p.join device).join name) = orNotFound text? := by
  rw [FileTree.readText]
  rcases h.readBytes hdevice hname with ⟨cause, hcause, hread⟩ | hread
  · exact .inl ⟨cause, hcause, by rw [hread]; rfl⟩
  · rw [hread, hcontent]
    cases text? with
    | none => exact .inr rfl
    | some text =>
      refine .inr ?_
      simp only [Option.map_some, orNotFound, bind, Except.bind, Text.ofBytes?_toBytes]
      rfl

end FileTree

namespace Directories

open FileTree

variable {d : Directories} {t t' : FileTree} {p root : Path} {place q : Place}
  {device name : String} {r : StoredReport}

/-! ## Two roots -/

def roots (d : Directories) : List Path :=
  [d.snapshots, d.reports]

/-- Neither directory is within the other, and neither path takes a detour through places that are
for artifacts. -/
structure AreApart (d : Directories) (t : FileTree) : Prop where
  snapshots : ¬ t.target d.snapshots <+: t.target d.reports
  reports : ¬ t.target d.reports <+: t.target d.snapshots
  way : ∀ p ∈ d.roots, ∀ root ∈ d.roots, ∀ q ∈ passed (t.start p) p.steps,
    ¬ IsShelf (t.target root) q

theorem AreApart.congr (h : d.AreApart t) (hhere : t'.here = t.here) : d.AreApart t' := by
  have hstart : ∀ p : Path, t'.start p = t.start p := by
    intro p
    rw [start, hhere]
    rfl
  obtain ⟨hsnapshots, hreports, hway⟩ := h
  constructor <;> simpa only [target_congr hhere, hstart]

theorem AreApart.not_mem_roots (h : d.AreApart t) (hp : p ∈ d.roots) (hroot : root ∈ d.roots)
    (name : String) : t.target p ≠ t.target root ++ [name] := by
  intro heq
  have hprefix : t.target root <+: t.target p := heq ▸ List.prefix_append _ _
  have hself : ∀ place : Place, place ≠ place ++ [name] := by simp
  rw [roots, List.mem_pair] at hp hroot
  rcases hp with rfl | rfl <;> rcases hroot with rfl | rfl
  · exact hself _ heq
  · exact h.reports hprefix
  · exact h.snapshots hprefix
  · exact hself _ heq

theorem AreApart.ne (h : d.AreApart t) (device name device' name' : String) :
    t.target d.snapshots ++ [device, name] ≠ t.target d.reports ++ [device', name'] := by
  intro heq
  have hroots := List.append_inj_left' heq rfl
  exact h.snapshots (hroots ▸ List.prefix_rfl)

/-- Making the directory of a device puts nothing where artifacts are. -/
theorem AreApart.at?_makeDirectories (h : d.AreApart t) (hp : p ∈ d.roots) (hroot : root ∈ d.roots)
    (hdevice : Path.IsName device) (device' name : String) :
    (t.makeDirectories (p.join device)).2.at? (t.target root ++ [device', name]) =
      t.at? (t.target root ++ [device', name]) := by
  have hshelf : IsShelf (t.target root) (t.target root ++ [device', name]) := ⟨device', name, rfl⟩
  refine (FileTree.makeDirectories_at? t (p.join device) _).resolve_right fun hpassed => ?_
  rw [passed_join hdevice, List.mem_append, List.mem_singleton] at hpassed
  rcases hpassed with hpassed | heq
  · exact h.way p hp root hroot _ hpassed hshelf
  · rw [List.append_cons] at heq
    exact h.not_mem_roots hp hroot device' (List.append_inj_left' heq rfl).symm

end Directories
end Conformance
