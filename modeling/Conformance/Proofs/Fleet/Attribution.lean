import Conformance.Proofs.Files.Components
import Conformance.Proofs.Fleet.Isolation
import Conformance.Watch

/-!
# Whose snapshots files are

A watch tells from a path alone whose snapshots have changed. It calls the same files snapshots as
stores do that list them: those that are directly in the directory of a device and not hidden.
-/
namespace Conformance

variable {d : Directories} {t : FileTree} {root p rel : Path} {top place q : Place}
  {device name : String} {rest : List String} {bytes : List UInt8}

theorem snapshotDevice?_eq_some : snapshotDevice? top place = some device ↔
    ∃ name, place = top ++ [device, name] ∧ Directories.isSnapshotName name = true := by
  rw [snapshotDevice?]
  constructor
  · intro h
    split at h
    · next hprefix =>
      obtain ⟨rest, rfl⟩ := List.isPrefixOf_iff_prefix.mp hprefix
      rw [List.drop_left] at h
      split at h
      · next device' name =>
        split at h
        · next hname =>
          cases h
          exact ⟨name, rfl, hname⟩
        · cases h
      · cases h
    · cases h
  · rintro ⟨name, rfl, hname⟩
    rw [if_pos (List.isPrefixOf_iff_prefix.mpr (List.prefix_append _ _)), List.drop_left]
    exact if_pos hname

namespace Path

theorem snapshotDevice?_eq_some : snapshotDevice? root p = some device ↔
    ∃ name, p.components = root.components ++ [device, name] ∧ IsName device ∧ IsName name ∧
      Directories.isSnapshotName name = true := by
  rw [snapshotDevice?, Option.filter_eq_some_iff, Conformance.snapshotDevice?_eq_some,
    decide_eq_true_iff]
  constructor
  · rintro ⟨⟨name, hcomponents, hkeep⟩, hdevice⟩
    have hname : name ∈ p.moves := by simp [(of_components hdevice hcomponents).2]
    obtain ⟨hstep, hhere⟩ := mem_moves.mp hname
    refine ⟨name, hcomponents, hdevice, isName_of_mem_steps hstep hhere ?_, hkeep⟩
    rintro rfl
    cases hkeep
  · rintro ⟨name, hcomponents, hdevice, -, hkeep⟩
    exact ⟨⟨name, hcomponents, hkeep⟩, hdevice⟩

theorem snapshotDevice?_eq_none_of_not_prefix (h : ¬ root.components <+: p.components) :
    snapshotDevice? root p = none := by
  rw [Option.eq_none_iff_forall_ne_some]
  intro device hdevice
  obtain ⟨name, hcomponents, -⟩ := snapshotDevice?_eq_some.mp hdevice
  exact h ⟨_, hcomponents.symm⟩

theorem snapshotDevice?_eq_none_of_length (h : p.components = root.components ++ rest)
    (hrest : rest.length ≠ 2) : snapshotDevice? root p = none := by
  rw [Option.eq_none_iff_forall_ne_some]
  intro device hdevice
  obtain ⟨name, hcomponents, -⟩ := snapshotDevice?_eq_some.mp hdevice
  rw [h, List.append_cancel_left_eq] at hcomponents
  exact hrest (hcomponents ▸ rfl)

end Path

/-! ## Files in place -/

theorem FileTree.walk_pair (hdevice : Path.IsName device) (hname : Path.IsName name)
    (h : t.walk top [device, name] = .ok q) : t.walk top [device] = .ok (top ++ [device]) ∧
      t.at? (top ++ [device]) = some .directory ∧ q = top ++ [device] ++ [name] := by
  rw [← List.singleton_append, FileTree.walk_append] at h
  obtain ⟨place, hfirst, hlast⟩ := h
  obtain ⟨-, -, rfl⟩ := (FileTree.walk_name hdevice).mp hfirst
  obtain ⟨hdirectory, -, hq⟩ := (FileTree.walk_name hname).mp hlast
  exact ⟨hfirst, hdirectory, hq⟩

/-- Wherever a path leads that names a device, it is in the directory of the device. -/
theorem FileTree.place_of_snapshotDevice? (hroot : t.locate root = .ok top) (hp : t.locate p = .ok q)
    (h : Path.snapshotDevice? root p = some device) : snapshotDevice? top q = some device := by
  obtain ⟨name, hcomponents, hdevice, hname, hkeep⟩ := Path.snapshotDevice?_eq_some.mp h
  obtain ⟨horigin, hmoves⟩ := Path.of_components hdevice hcomponents
  have hwalk := FileTree.walk_of_locate hp
  rw [hmoves, FileTree.start_of_origin horigin, FileTree.walk_append] at hwalk
  obtain ⟨top', htop, hrest⟩ := hwalk
  obtain rfl := Except.ok.inj ((FileTree.walk_of_locate hroot).symm.trans htop)
  obtain ⟨-, -, rfl⟩ := FileTree.walk_pair hdevice hname hrest
  exact snapshotDevice?_eq_some.mpr ⟨name, by simp, hkeep⟩

section Below
variable (hrel : rel.isAbsolute = false)
include hrel

theorem Directories.mem_list_of_components
    (hopen : t.open? (d.snapshots.join rel) = .ok (q, .file bytes)) (hdevice : Path.IsName device)
    (hname : Path.IsName name) (hkeep : isSnapshotName name = true)
    (h : (d.snapshots.join rel).components = d.snapshots.components ++ [device, name]) :
    ∃ ids, list t (d.snapshotsOf device) isSnapshotName = .ok ids ∧ name ∈ ids := by
  have hmoves : rel.moves = [device, name] := by
    have hjoined := (Path.of_components hdevice h).2
    rwa [Path.moves_join hrel, List.append_cancel_left_eq] at hjoined
  obtain ⟨hlocate, hat⟩ := FileTree.open?_eq_ok.mp hopen
  obtain ⟨hchecked, place, hwalk, hend⟩ := FileTree.locate_eq_ok.mp hlocate
  rw [FileTree.start_join_of_relative hrel, Path.steps_join_of_relative hrel,
    FileTree.walk_append] at hwalk
  obtain ⟨top, htop, hrest⟩ := hwalk
  have hpair : t.walk top rel.moves = .ok place := FileTree.walk_moves hrest
  rw [hmoves] at hpair
  obtain ⟨hfirst, hdirectory, rfl⟩ := FileTree.walk_pair hdevice hname hpair
  obtain rfl := FileTree.walk_end_eq hend
  have hmem : device ∈ rel.moves := by simp [hmoves]
  have hlead : t.LeadsTo (d.snapshotsOf device) (top ++ [device]) := by
    refine ⟨FileTree.checkPath_join_of_mem hrel hdevice (Path.mem_moves.mp hmem).1 hchecked, ?_,
      hdirectory⟩
    rw [snapshotsOf, FileTree.start_join hdevice, Path.steps_join hdevice]
    exact FileTree.walk_append.mpr ⟨top, htop, hfirst⟩
  refine ⟨_, list_of_leadsTo hlead, ?_⟩
  exact List.mem_filter.mpr ⟨FileTree.mem_filesAt.mpr ⟨bytes, hat⟩, hkeep⟩

/-- Where paths do not go up, a watch may look at places instead of paths. -/
theorem FileTree.snapshotDevice?_place (hup : ".." ∉ rel.steps) (hroot : t.locate root = .ok top)
    (hp : t.locate (root.join rel) = .ok q) :
    snapshotDevice? top q = Path.snapshotDevice? root (root.join rel) := by
  have hne : root ≠ "" := FileTree.ne_empty_of_checked (FileTree.locate_eq_ok.mp hroot).1
  have hnames : ∀ step ∈ rel.moves, Path.IsName step := by
    intro step hstep
    obtain ⟨hmem, hhere⟩ := Path.mem_moves.mp hstep
    exact Path.isName_of_mem_steps hmem hhere fun heq => hup (heq ▸ hmem)
  have hwalk := FileTree.walk_of_locate hp
  rw [FileTree.start_join_of_relative hrel, Path.moves_join hrel, FileTree.walk_append] at hwalk
  obtain ⟨top', htop, hrest⟩ := hwalk
  obtain rfl := Except.ok.inj ((FileTree.walk_of_locate hroot).symm.trans htop)
  obtain rfl := (FileTree.walk_eq_foldl hrest).trans (FileTree.foldl_advance_of_names hnames top)
  apply Option.ext
  intro device
  rw [snapshotDevice?_eq_some, Path.snapshotDevice?_eq_some]
  apply exists_congr
  intro name
  rw [Path.components_join hrel hne, List.append_cancel_left_eq, List.append_cancel_left_eq]
  apply and_congr_right
  intro hmoves
  rw [hmoves, List.forall_mem_cons, List.forall_mem_singleton] at hnames
  exact ⟨fun hkeep => ⟨hnames.1, hnames.2, hkeep⟩, fun h => h.2.2⟩

end Below

/-- A file below the directory of all snapshots counts as a snapshot of a device for the watch if and
only if stores list it for the device. No path that is elsewhere or at another depth counts as one. In
place of paths that do not go up, places can be looked at; where other paths lead that count as
snapshots, there are snapshots of the same device. -/
theorem watched_iff_listed (d : Directories) (t : FileTree) (hsound : t.IsSound) :
    (∀ device, Settings.Accepts device → ∀ (rel : Path) (q : Place) (bytes : List UInt8),
      rel.isAbsolute = false → t.open? (d.snapshots.join rel) = .ok (q, .file bytes) →
      (Path.snapshotDevice? d.snapshots (d.snapshots.join rel) = some device ↔
        ∃ (name : String) (ids : List String), (d.snapshots.join rel).components =
            ((d.snapshots.join device).join name).components ∧
          (d.store (.snapshotIds device) t).1 = .ok ids ∧ name ∈ ids)) ∧
    (∀ p : Path, ¬ d.snapshots.components <+: p.components →
      Path.snapshotDevice? d.snapshots p = none) ∧
    (∀ (p : Path) (rest : List String), p.components = d.snapshots.components ++ rest →
      rest.length ≠ 2 → Path.snapshotDevice? d.snapshots p = none) ∧
    ∀ top, t.locate d.snapshots = .ok top →
      (∀ (rel : Path) (q : Place), rel.isAbsolute = false → ".." ∉ rel.steps →
        t.locate (d.snapshots.join rel) = .ok q →
        snapshotDevice? top q = Path.snapshotDevice? d.snapshots (d.snapshots.join rel)) ∧
      ∀ (p : Path) (q : Place) (device : String), t.locate p = .ok q →
        Path.snapshotDevice? d.snapshots p = some device → snapshotDevice? top q = some device := by
  refine ⟨?_, fun p => Path.snapshotDevice?_eq_none_of_not_prefix,
    fun p rest => Path.snapshotDevice?_eq_none_of_length, ?_⟩
  · intro device hdevice rel q bytes hrel hopen
    rw [Path.snapshotDevice?_eq_some]
    constructor
    · rintro ⟨name, hcomponents, hisName, hname, hkeep⟩
      obtain ⟨ids, hids, hmem⟩ :=
        Directories.mem_list_of_components hrel hopen hisName hname hkeep hcomponents
      refine ⟨name, ids, ?_, hids, hmem⟩
      rw [hcomponents, Path.components_join_name hname, Path.components_join_name hisName,
        List.append_assoc]
      rfl
    · rintro ⟨name, ids, hcomponents, hids, hmem⟩
      have hname := Directories.isName_of_mem_list hsound hids hmem
      rw [Path.components_join_name hname, Path.components_join_name hdevice.isName,
        List.append_assoc] at hcomponents
      exact ⟨name, hcomponents, hdevice.isName, hname, Directories.keep_of_mem_list hids hmem⟩
  · intro top htop
    exact ⟨fun rel q hrel hup => FileTree.snapshotDevice?_place hrel hup htop,
      fun p q device => FileTree.place_of_snapshotDevice? htop⟩

/-- A path to a snapshot with more slashes than it needs. -/
theorem watched_iff_listed_pair :
    let d : Directories := ⟨"./snapshots/", "reports"⟩
    let p := d.snapshots.join "sw1/.//2024-05-01_0900"
    FileTree.pair.IsSound ∧ Settings.Accepts "sw1" ∧ p = "./snapshots/sw1/.//2024-05-01_0900" ∧
      FileTree.pair.open? p = .ok (["snapshots", "sw1", "2024-05-01_0900"], .file []) ∧
      snapshotDevice? ["snapshots"] ["snapshots", "sw1", "2024-05-01_0900"] = some "sw1" ∧
      (∃ (name : String) (ids : List String),
        p.components = ((d.snapshots.join "sw1").join name).components ∧
          (d.store (.snapshotIds "sw1") .pair).1 = .ok ids ∧ name ∈ ids) ∧
      Path.snapshotDevice? d.snapshots "./snapshots/sw1" = none ∧
      Path.snapshotDevice? d.snapshots "/elsewhere/sw1/x.conf" = none := by
  intro d p
  have hsound : FileTree.pair.IsSound := by decide +kernel
  have haccepts : Settings.Accepts "sw1" := by decide +kernel
  have hopen : FileTree.pair.open? p =
      .ok (["snapshots", "sw1", "2024-05-01_0900"], .file []) := by decide +kernel
  have hnamed : Path.snapshotDevice? d.snapshots p = some "sw1" := by decide +kernel
  have hroot : FileTree.pair.locate d.snapshots = .ok ["snapshots"] := by decide +kernel
  have hp := (FileTree.open?_eq_ok.mp hopen).1
  obtain ⟨hlisted, houtside, hbelow, hplaces⟩ := watched_iff_listed d .pair hsound
  refine ⟨hsound, haccepts, by decide +kernel, hopen, ?_, ?_, ?_, ?_⟩
  · exact (hplaces _ hroot).2 p _ "sw1" hp hnamed
  · exact (hlisted "sw1" haccepts "sw1/.//2024-05-01_0900" _ [] (by decide +kernel) hopen).mp hnamed
  · exact hbelow "./snapshots/sw1" ["sw1"] (by decide +kernel) (by decide)
  · exact houtside "/elsewhere/sw1/x.conf" (by decide +kernel)

end Conformance
