import Conformance.Proofs.Refresh.Audit
import Conformance.Proofs.Refresh.History
import Conformance.Proofs.Store.Failure

/-!
# Scans that fail

A scan that fails leaves the reports of its device as they were. The exception is a forced scan that
fails after its templates compiled, while reports are removed or the new one is saved: the reports
removed so far are gone then.
-/
namespace Conformance

namespace Directories

variable {d : Directories} {t t' : FileTree} {a : Auditor} {now : Moment} {device : Device}
  {force : Bool} {cause : ScanError}

/-- The path of a device's reports leads somewhere, or does not go up and has no overlong steps. -/
def HasPlainReports (d : Directories) (t : FileTree) (device : String) : Prop :=
  FileTree.IsPlainWay (Path.steps (d.reportsOf device)) ∨ t.isDirectory (d.reportsOf device) = true

instance (d : Directories) (t : FileTree) (device : String) :
    Decidable (d.HasPlainReports t device) :=
  inferInstanceAs (Decidable (FileTree.IsPlainWay (Path.steps (d.reportsOf device)) ∨
    t.isDirectory (d.reportsOf device) = true))

/-- A forced scan comes as far as to remove reports: it can audit the newest snapshot. -/
def ComesToDiscard (d : Directories) (t : FileTree) (a : Auditor) (device : Device)
    (force : Bool) : Prop :=
  force = true ∧ ∃ snapshot report lines found,
    Auditor.latestIn d.store device.name t = .ok (some snapshot, report) ∧
    d.loadSnapshot t device.name snapshot.2 = .ok lines ∧ a.audit device lines = .ok found

theorem losesFirst_of_refreshing {snapshot : Moment × String}
    {report : Option (Moment × String)} {counted : List Count} (hsound : t.IsSound)
    (hroute : d.HasPlainReports t device.name)
    (hin : Auditor.latestIn d.store device.name t = .ok (some snapshot, report))
    (h : Auditor.Refreshing d.store a now device force snapshot t (.error cause, t', counted)) :
    ∃ k, LosesFirst d t t' device.name k ∧ (k ≠ 0 → ComesToDiscard d t a device force) := by
  obtain ⟨_, ids, _, hids, _, _⟩ := Auditor.latestIn_eq_ok hin
  cases h with
  | unloaded _ => exact ⟨0, .refl d t _, fun hne => absurd rfl hne⟩
  | uncompiled _ _ => exact ⟨0, .refl d t _, fun hne => absurd rfl hne⟩
  | @undiscarded lines found _ _ hload haudit hdiscard =>
    have hkept : KeepsReports (Auditor.discard d.store device.name force t).2 t' := by
      rw [hdiscard]
      exact .refl t'
    obtain ⟨k, hloses, hforce⟩ := losesFirst_of_discard hsound hroute hids hkept
    exact ⟨k, hloses, fun hne => ⟨hforce hne, snapshot, report, lines, found, hin, hload, haudit⟩⟩
  | @unsaved lines found _ _ between _ hload haudit hdiscard hsave =>
    have hkept : KeepsReports (Auditor.discard d.store device.name force t).2 t' := by
      rw [hdiscard]
      exact keepsReports_of_saveReport hsave
    obtain ⟨k, hloses, hforce⟩ := losesFirst_of_discard hsound hroute hids hkept
    exact ⟨k, hloses, fun hne => ⟨hforce hne, snapshot, report, lines, found, hin, hload, haudit⟩⟩

/-! ## Scans that change what reports there are -/

/-- A tree with a snapshot and a report, and a directory where the next report would be written. -/
def obstructed : FileTree where
  entries := [(["snapshots"], .directory), (["snapshots", "sw1"], .directory),
    (["snapshots", "sw1", "2024-05-01_0900"], .file []),
    (["reports"], .directory), (["reports", "sw1"], .directory),
    (["reports", "sw1", "sw1_deviation_2024-04-01_0000.json"],
      .file (Text.toBytes "[\"sw1\",\"\",\"\",\"els\",[[],[],\"clean\"]]")),
    (["reports", "sw1", ".sw1_deviation_2024-05-01_1200.json.tmp"], .directory)]
  here := []

def obstructedScan (reports : Path) (force : Bool) :
    Except ScanError Outcome × FileTree × List Count :=
  (Auditor.blank.scan ⟨2024, 5, 1, 12, 0, 0⟩ ⟨"sw1", .els⟩ force).run.run
    (Directories.mk "snapshots" reports).store obstructed

def overlong : String :=
  String.ofList (List.replicate 256 'a')

theorem toList_overlong : overlong.toList = List.replicate 256 'a' := String.toList_ofList

theorem not_mem_overlong {c : Char} (hc : c ≠ 'a') : c ∉ overlong.toList := by
  rw [toList_overlong]
  exact fun hmem => hc (List.eq_of_mem_replicate hmem)

theorem isName_overlong : Path.IsName overlong := by
  apply isName_of_length (not_mem_overlong (by decide))
  rw [toList_overlong, List.length_replicate]
  decide

theorem utf8ByteSize_letters (n : Nat) :
    (String.ofList (List.replicate n 'a')).utf8ByteSize = n := by
  have hletters : ∀ c ∈ (String.ofList (List.replicate n 'a')).toList, c.toNat < 128 := by
    intro c hc
    rw [String.toList_ofList] at hc
    rw [List.eq_of_mem_replicate hc]
    decide
  rw [Text.utf8ByteSize_eq_length hletters, String.toList_ofList, List.length_replicate]

theorem utf8ByteSize_overlong : overlong.utf8ByteSize = 256 :=
  utf8ByteSize_letters 256

theorem longestName_lt_overlong : FileTree.longestName < overlong.utf8ByteSize := by
  rw [utf8ByteSize_overlong]
  decide

theorem join_overlong :
    "missing/" ++ overlong = Path.join "missing" overlong ∧
    reportsOf ⟨"snapshots", "missing/" ++ overlong⟩ "sw1" = "missing/" ++ overlong ++ "/sw1" := by
  constructor
  · have hfront : "missing" ++ "/" = "missing/" := by decide +kernel
    simp [Path.join, Path.isAbsolute_of_not_mem isName_overlong.slash_not_mem, hfront]
  · have hlast : ("missing/" ++ overlong).toList.getLast? = some 'a' := by
      rw [String.toList_append, toList_overlong, List.getLast?_append, List.getLast?_replicate]
      rfl
    have habsolute : Path.isAbsolute "sw1" = false := by decide +kernel
    have hempty : ("missing/" ++ overlong).isEmpty = false := by simp
    rw [reportsOf, Path.join, hlast, habsolute, hempty]
    exact String.append_assoc

/-- The path is told step by step: it is too long to be evaluated. -/
theorem isOverlongIn_obstructed : obstructed.IsOverlongIn
    (reportsOf ⟨"snapshots", "missing/" ++ overlong⟩ "sw1") ["missing"] := by
  obtain ⟨hjoin, hreports⟩ := join_overlong
  have hsw1 : Path.IsName "sw1" := by decide +kernel
  have hstart : obstructed.start (reportsOf ⟨"snapshots", "missing/" ++ overlong⟩ "sw1") = [] := by
    rw [reportsOf, FileTree.start_join hsw1, hjoin, FileTree.start_join isName_overlong]
    rfl
  refine ⟨?_, by rw [hstart]; rfl, "missing", overlong, ["sw1"], ?_, by decide, by rw [hstart]; rfl,
    isName_overlong, longestName_lt_overlong⟩
  · have hnul : '\x00' ∉ overlong.toList := not_mem_overlong (by decide)
    have hfront : '\x00' ∉ "missing/".toList := by decide
    have hback : '\x00' ∉ "/sw1".toList := by decide
    rw [hreports]
    refine FileTree.checkPath_eq_ok.mpr ⟨?_, ?_, ?_⟩
    · simp only [String.toList_append, List.mem_append, hfront, hnul, hback, or_false,
        not_false_eq_true]
    · simp
    · rw [String.utf8ByteSize_append, String.utf8ByteSize_append, utf8ByteSize_overlong]
      decide
  · have hfirst : Path.steps "missing" = ["missing"] := by decide +kernel
    rw [reportsOf, Path.steps_join hsw1, hjoin, Path.steps_join isName_overlong, hfirst]
    rfl

theorem run_scan_unsaved {snapshot : Moment × String} {lines ids : List String}
    {found : Augmentation × DeviationReport} {unsaved : StoreError}
    (hids : list t (d.snapshotsOf device.name) isSnapshotName = .ok ids)
    (hlatest : Stamp.latest? ids = some snapshot) (hnone : d.reportIds t device.name = .ok [])
    (hload : d.loadSnapshot t device.name snapshot.2 = .ok lines)
    (haudit : a.audit device lines = .ok found)
    (hsave : d.saveReport t (Auditor.reportOn now device snapshot found) = (.error unsaved, t')) :
    (a.scan now device false).run.run d.store t =
      (.error (.store unsaved), t', Auditor.lineCounts found.2) := by
  have hin : Auditor.latestIn d.store device.name t = .ok (some snapshot, none) := by
    have hids' : (d.store (.snapshotIds device.name) t).1 = .ok ids := hids
    have hnone' : (d.store (.reportIds device.name) t).1 = .ok [] := hnone
    rw [Auditor.latestIn, hids', hnone', ← hlatest]
    rfl
  have hdue : Auditor.IsDue false snapshot none := .inr fun _ hr => by cases hr
  exact Auditor.run_scan_unsaved d.keepsOnReading ⟨⟨none, hin, hdue⟩, hload⟩ haudit hsave

theorem obstructedScan_unsaved {reports : Path} {unsaved : StoreError} {made : FileTree}
    (hids : reportIds ⟨"snapshots", reports⟩ obstructed "sw1" = .ok [])
    (hsave : ∀ r : StoredReport, r.device = "sw1" →
      saveReport ⟨"snapshots", reports⟩ obstructed r = (.error unsaved, made)) :
    ∃ counted, obstructedScan reports false = (.error (.store unsaved), made, counted) := by
  have hsnapshotsOf : snapshotsOf ⟨"snapshots", reports⟩ "sw1" = "snapshots/sw1" := by
    show Path.join "snapshots" "sw1" = "snapshots/sw1"
    decide +kernel
  have hsnapshots : list obstructed (snapshotsOf ⟨"snapshots", reports⟩ "sw1") isSnapshotName =
      .ok ["2024-05-01_0900"] := by
    rw [hsnapshotsOf]
    decide +kernel
  have hlatest : Stamp.latest? ["2024-05-01_0900"] =
      some (⟨2024, 5, 1, 9, 0, 0⟩, "2024-05-01_0900") := by decide +kernel
  have hread : obstructed.readText (Path.join "snapshots/sw1" "2024-05-01_0900") = .ok "" := by
    decide +kernel
  have hload : loadSnapshot ⟨"snapshots", reports⟩ obstructed "sw1" "2024-05-01_0900" = .ok [] := by
    unfold loadSnapshot
    simp only [hsnapshotsOf, hread]
    rfl
  have haudit : (Auditor.blank.audit ⟨"sw1", .els⟩ []).toOption.isSome = true := by decide +kernel
  obtain ⟨found, haudit⟩ := Except.exists_ok_of_isSome haudit
  exact ⟨_, run_scan_unsaved hsnapshots hlatest hids hload haudit (hsave _ rfl)⟩

/-- A failing scan can change what reports there are: with force the report is lost; where the path
goes up from a missing directory a report appears; and where the path is overlong behind a missing
directory, the reports cannot be listed any more. -/
theorem reportIds_of_obstructedScan :
    obstructed.IsSound ∧
    (∃ cause, (obstructedScan "reports" true).1 = .error cause ∧
      (Directories.mk "snapshots" "reports").reportIds obstructed "sw1" =
        .ok ["sw1_deviation_2024-04-01_0000.json"] ∧
      (Directories.mk "snapshots" "reports").reportIds (obstructedScan "reports" true).2.1 "sw1" =
        .ok []) ∧
    (∃ cause, (obstructedScan "missing/../reports" false).1 = .error cause ∧
      (Directories.mk "snapshots" "missing/../reports").reportIds obstructed "sw1" = .ok [] ∧
      (Directories.mk "snapshots" "missing/../reports").reportIds
        (obstructedScan "missing/../reports" false).2.1 "sw1" =
        .ok ["sw1_deviation_2024-04-01_0000.json"]) ∧
    ∃ cause, (obstructedScan ("missing/" ++ overlong) false).1 = .error cause ∧
      (Directories.mk "snapshots" ("missing/" ++ overlong)).reportIds obstructed "sw1" = .ok [] ∧
      (Directories.mk "snapshots" ("missing/" ++ overlong)).reportIds
        (obstructedScan ("missing/" ++ overlong) false).2.1 "sw1" =
        .error (.files ("missing/" ++ overlong ++ "/sw1") .nameTooLong) := by
  obtain ⟨hbefore, hafter⟩ := reportIds_of_isOverlongIn isOverlongIn_obstructed rfl
  have hsave : ∀ r : StoredReport, r.device = "sw1" →
      saveReport ⟨"snapshots", "missing/" ++ overlong⟩ obstructed r =
        (.error (.files (reportsOf ⟨"snapshots", "missing/" ++ overlong⟩ "sw1") .nameTooLong),
          obstructed.put ["missing"] .directory) := by
    intro r hr
    rw [← hr]
    exact saveReport_of_isOverlongIn (hr ▸ isOverlongIn_obstructed) rfl
  obtain ⟨counted, hscan⟩ := obstructedScan_unsaved hbefore hsave
  refine ⟨by decide +kernel,
    ⟨.store (.files "reports/sw1/.sw1_deviation_2024-05-01_1200.json.tmp" .isADirectory), ?_, ?_, ?_⟩,
    ⟨.store (.files "missing/../reports/sw1/.sw1_deviation_2024-05-01_1200.json.tmp" .isADirectory),
      ?_, ?_, ?_⟩, ?_⟩
  iterate 6 decide +kernel
  rw [hscan, ← join_overlong.2]
  exact ⟨_, rfl, hbefore, hafter⟩

/-! ## What a failing scan leaves -/

/-- A scan that fails changes nothing if templates do not compile. Whatever it fails for, the
reports of its device are as they were, unless a forced scan came to discard them: then those that
are gone are the first ones. -/
theorem scan_failed (d : Directories) (t : FileTree) (a : Auditor) (now : Moment) (device : Device)
    (force : Bool) (cause : ScanError) (hsound : t.IsSound)
    (h : ((a.scan now device force).run.run d.store t).1 = .error cause) :
    (∀ name fault, cause = .compile name fault →
      ((a.scan now device force).run.run d.store t).2.1 = t) ∧
    (d.HasPlainReports t device.name →
      ∃ k, LosesFirst d t ((a.scan now device force).run.run d.store t).2.1 device.name k ∧
        (k ≠ 0 → ComesToDiscard d t a device force)) := by
  have hscan := Auditor.scan_scanning d.keepsOnReading a now device force t
  generalize (a.scan now device force).run.run d.store t = outcome at hscan h ⊢
  cases hscan with
  | unlisted _ => exact ⟨fun _ _ _ => rfl, fun _ => ⟨0, .refl d t _, fun hne => absurd rfl hne⟩⟩
  | noConfig _ => cases h
  | unreadable _ _ _ _ =>
    exact ⟨fun _ _ _ => rfl, fun _ => ⟨0, .refl d t _, fun hne => absurd rfl hne⟩⟩
  | upToDate _ _ _ _ => cases h
  | refreshed _ _ _ => cases h
  | failed hin hdue hrefresh =>
    obtain rfl := Except.error.inj h
    refine ⟨?_, fun hroute => losesFirst_of_refreshing hsound hroute hin hrefresh⟩
    rintro name fault rfl
    cases hrefresh
    rfl

/-- With force, the only report may be gone. -/
theorem scan_failed_obstructed :
    obstructed.IsSound ∧
    (Directories.mk "snapshots" "reports").HasPlainReports obstructed "sw1" ∧
    ∃ cause, (obstructedScan "reports" true).1 = .error cause ∧
      ∃ k, LosesFirst (Directories.mk "snapshots" "reports") obstructed
          (obstructedScan "reports" true).2.1 "sw1" k ∧
        (k ≠ 0 → ComesToDiscard (Directories.mk "snapshots" "reports") obstructed .blank
          ⟨"sw1", .els⟩ true) :=
  have hsound : obstructed.IsSound := by decide +kernel
  have hplain : (Directories.mk "snapshots" "reports").HasPlainReports obstructed "sw1" := by
    decide +kernel
  have hfailed : (obstructedScan "reports" true).1 = .error (.store (.files
      "reports/sw1/.sw1_deviation_2024-05-01_1200.json.tmp" .isADirectory)) := by
    decide +kernel
  ⟨hsound, hplain, _, hfailed,
    (scan_failed ⟨"snapshots", "reports"⟩ obstructed .blank ⟨2024, 5, 1, 12, 0, 0⟩ ⟨"sw1", .els⟩
      true _ hsound hfailed).2 hplain⟩

end Directories
end Conformance
