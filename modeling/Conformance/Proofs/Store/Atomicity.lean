import Conformance.Proofs.Refresh.Failure
import Conformance.Proofs.Store.Confinement
import Conformance.Proofs.Text.Blank

/-!
# Saving is all or nothing

While a report is written, its bytes are under a name that is not a report's, in the directory of its
device. So all reports are listed and read as before until it is moved into place, and afterwards all
but the one it replaces.
-/
namespace Conformance.Directories

open FileTree (Confined)

variable {d : Directories} {t t' : FileTree} {place : Place} {device owner id name : String}
  {names ids ids' : List String} {r : StoredReport} {cause : StoreError} {keep k : String → Bool}
  {p : Path}

def Among (place : Place) (names : List String) (q : Place) : Prop :=
  ∃ name ∈ names, q = place ++ [name]

/-! ## What a saving passes through -/

/-- What a tree may be before a report is moved into place: directories are made, and any bytes may
be there under the unfinished name, or were and are removed. -/
inductive Unmoved (d : Directories) (r : StoredReport) (t : FileTree) : FileTree → Prop
  | made : Unmoved d r t (t.makeDirectories (d.reportsOf r.device)).2
  | written {bytes : List UInt8} {written : FileTree} :
    (t.makeDirectories (d.reportsOf r.device)).2.writeFile
      ((d.reportsOf r.device).join (unfinishedName r.id)) bytes = .ok written →
    Unmoved d r t written
  | removed {bytes : List UInt8} {written : FileTree} :
    (t.makeDirectories (d.reportsOf r.device)).2.writeFile
      ((d.reportsOf r.device).join (unfinishedName r.id)) bytes = .ok written →
    Unmoved d r t ((written.removeFile
      ((d.reportsOf r.device).join (unfinishedName r.id))).toOption.getD written)

theorem unmoved_of_saveReport (h : d.saveReport t r = (.error cause, t')) : Unmoved d r t t' := by
  rcases saveReport_eq_error h with rfl | ⟨written, hwrite, rfl⟩
  · exact .made
  · exact .removed hwrite

/-- Until a report is moved, only what is under its unfinished name changes. -/
theorem confined_of_unmoved (hslash : '/' ∉ r.id.toList) (hdevice : Path.IsName r.device)
    (h : Unmoved d r t t') :
    Confined (Among (t.target (d.reportsOf r.device)) [unfinishedName r.id]) t t' := by
  have hdirectory : d.reportsOf r.device ≠ "" := Path.join_ne_empty hdevice d.reports
  have hgrows := FileTree.makeDirectories_grows t (d.reportsOf r.device)
  have hmade := hgrows.confined (Among (t.target (d.reportsOf r.device)) [unfinishedName r.id])
  have hamong : ∀ {q}, (t.makeDirectories (d.reportsOf r.device)).2.locate
      ((d.reportsOf r.device).join (unfinishedName r.id)) = .ok q →
      Among (t.target (d.reportsOf r.device)) [unfinishedName r.id] q := by
    intro q hlocate
    refine ⟨_, List.mem_singleton_self _, ?_⟩
    rw [FileTree.locate_join_target (isName_unfinishedName hslash) hdirectory hlocate,
      FileTree.target_congr hgrows.here]
  cases h with
  | made => exact hmade
  | @written bytes _ hwrite =>
    obtain ⟨q, hlocate, hfree, rfl⟩ := FileTree.writeFile_eq_ok hwrite
    exact hmade.trans (FileTree.confined_put hfree (hamong hlocate) bytes)
  | @removed bytes _ hwrite =>
    obtain ⟨q, hlocate, hfree, hremove⟩ := removeFile_of_writeFile hwrite
    rw [hremove]
    have hput := FileTree.confined_put hfree (hamong hlocate) bytes
    have hfile : ((t.makeDirectories (d.reportsOf r.device)).2.put q (.file bytes)).at? q ≠
        some .directory := by
      simp [FileTree.at?_put (FileTree.ne_nil_of_free hfree)]
    exact (hmade.trans hput).trans (FileTree.confined_erase hfile (hamong hlocate))

theorem Saved.confined (h : Saved d t t' place r) :
    Confined (Among (t.target (d.reportsOf r.device)) [r.id, unfinishedName r.id]) t t' where
  keeps := h.keeps
  outside q hq := by
    have hplace : place = t.target (d.reportsOf r.device) := by
      rw [h.leadsTo.eq_target, FileTree.target_congr h.keeps.here]
    have hid : q ≠ place ++ [r.id] := by
      rintro rfl
      exact hq ⟨r.id, by simp, by rw [hplace]⟩
    have hunfinished : q ≠ place ++ [unfinishedName r.id] := by
      rintro rfl
      exact hq ⟨unfinishedName r.id, by simp, by rw [hplace]⟩
    rw [h.at?_eq, if_neg hid, if_neg hunfinished]
    exact (FileTree.makeDirectories_grows t (d.reportsOf r.device)).at?_eq q

/-! ## What is listed and read meanwhile -/

theorem list_and (t : FileTree) (p : Path) (keep k : String → Bool) :
    list t p (fun name => keep name && k name) = (list t p keep).map (List.filter k) := by
  rw [list_eq, list_eq]
  cases t.listFiles p with
  | ok names =>
    have hfilter : names.filter (fun name => keep name && k name) =
        (names.filter keep).filter k := by
      rw [List.filter_filter]
      simp only [Bool.and_comm]
    exact congrArg Except.ok hfilter
  | error cause => cases cause <;> rfl

theorem isClear_of_mem_list (h : list t p keep = .ok names) (hname : name ∈ names) :
    t.IsClear p := by
  obtain ⟨place, hlead⟩ := leadsTo_of_mem_list h hname
  exact hlead.isClear

section Devices
variable (hdevice : Path.IsName device) (howner : Path.IsName owner)
include hdevice howner

theorem among_reportsOf
    (h : Among (t.target (d.reportsOf owner)) names (t.target (d.reportsOf device) ++ [name])) :
    device = owner ∧ name ∈ names := by
  obtain ⟨name', hname', heq⟩ := h
  rw [target_reportsOf hdevice, target_reportsOf howner] at heq
  obtain ⟨hplaces, hnames⟩ := List.append_inj' heq rfl
  obtain rfl : name = name' := by simpa using hnames
  exact ⟨by simpa using hplaces, hname'⟩

variable (hsound : t.IsSound)
  (h : Confined (Among (t.target (d.reportsOf owner)) names) t t')
include hsound h

theorem list_of_among (hnames : device = owner → ∀ name ∈ names, keep name = false)
    (hclear : t.IsClear (d.reportsOf device)) :
    list t' (d.reportsOf device) keep = list t (d.reportsOf device) keep := by
  apply list_of_confined h hsound _ hclear
  · rintro q ⟨name, -, rfl⟩ hprefix
    have hlength := hprefix.length_le
    simp [target_reportsOf hdevice, target_reportsOf howner] at hlength
  · intro name hkeep hamong
    obtain ⟨heq, hname⟩ := among_reportsOf hdevice howner hamong
    simp [hnames heq name hname] at hkeep

theorem loadReport_of_among (hids : d.reportIds t device = .ok ids) (hid : id ∈ ids)
    (hnames : device = owner → id ∉ names) : d.loadReport t' device id = d.loadReport t device id := by
  have hin : ¬ Among (t.target (d.reportsOf owner)) names
      (t.target (d.reportsOf device) ++ [id]) := by
    intro hamong
    obtain ⟨heq, hname⟩ := among_reportsOf hdevice howner hamong
    exact hnames heq hname
  exact loadReport_congr (readBytes_of_confined h hsound hids hid hin)

end Devices

/-- All reports of a device are listed as before, and those that were listed are read as before. -/
structure SparesReports (d : Directories) (t t' : FileTree) (device : String) : Prop where
  same : t.IsClear (d.reportsOf device) → d.reportIds t' device = d.reportIds t device
  listed : ∀ ids, d.reportIds t device = .ok ids → ids ≠ [] → d.reportIds t' device = .ok ids
  content : ∀ ids, d.reportIds t device = .ok ids → ∀ id ∈ ids,
    d.loadReport t' device id = d.loadReport t device id

theorem sparesReports_of_among (hdevice : Path.IsName device) (howner : Path.IsName owner)
    (hsound : t.IsSound) (h : Confined (Among (t.target (d.reportsOf owner)) names) t t')
    (hnames : device = owner → ∀ name ∈ names, isReportName name = false) :
    d.SparesReports t t' device := by
  have hsame : t.IsClear (d.reportsOf device) → d.reportIds t' device = d.reportIds t device :=
    list_of_among hdevice howner hsound h hnames
  refine ⟨hsame, ?_, ?_⟩
  · intro ids hids hne
    obtain ⟨id, hid⟩ := List.exists_mem_of_ne_nil ids hne
    exact (hsame (isClear_of_mem_list hids hid)).trans hids
  · intro ids hids id hid
    apply loadReport_of_among hdevice howner hsound h hids hid
    intro heq hmem
    have hreport := keep_of_mem_list hids hid
    simp [hnames heq id hmem] at hreport

/-! ## Saving -/

theorem sparesReports_of_unmoved (hr : Request.IsAdmitted (.saveReport r))
    (hdevice : Settings.Accepts device) (hsound : t.IsSound) (h : Unmoved d r t t') :
    d.SparesReports t t' device := by
  have hconfined := confined_of_unmoved (slash_not_mem_id_of_isAdmitted hr) hr.1.isName h
  apply sparesReports_of_among hdevice.isName hr.1.isName hsound hconfined
  intro _ name hname
  rw [List.mem_singleton.mp hname]
  exact isReportName_unfinishedName r.id

theorem open?_unfinished (hslash : '/' ∉ r.id.toList) (h : d.saveReport t r = (.ok id, t')) :
    t'.open? ((d.reportsOf r.device).join (unfinishedName r.id)) = .error .notFound := by
  have hunfinished := isName_unfinishedName hslash
  obtain ⟨-, made, written, hmake, hwrite, hmove⟩ := saveReport_eq_ok h
  obtain ⟨place, hsaved⟩ := saved_of_saveReport hslash h
  obtain ⟨q, hlocate, -, -⟩ := FileTree.writeFile_eq_ok hwrite
  have hkeeps := (FileTree.keeps_writeFile hwrite).trans (FileTree.keeps_moveFile hmove)
  have hlocate' := FileTree.locate_mono hkeeps hlocate
  obtain rfl := hsaved.leadsTo.place_of_locate hunfinished hlocate'
  have hne : place ++ [unfinishedName r.id] ≠ place ++ [r.id] := by
    intro heq
    have hname : unfinishedName r.id = r.id := by simpa using heq
    have hreport := isReportName_unfinishedName r.id
    rw [hname, isReportName_id] at hreport
    cases hreport
  apply FileTree.open?_eq_notFound hlocate'
  rw [hsaved.at?_eq, if_neg hne, if_pos rfl]

theorem otherReportIds_of_saved {ids ids' : List String}
    (hr : Request.IsAdmitted (.saveReport r)) (hsound : t.IsSound) (hsaved : Saved d t t' place r)
    (hclear : t.IsClear (d.reportsOf r.device)) (hids : d.reportIds t r.device = .ok ids)
    (hids' : d.reportIds t' r.device = .ok ids') :
    ids'.filter (· != r.id) = ids.filter (· != r.id) := by
  have hname := hr.1.isName
  have hnames : r.device = r.device → ∀ name ∈ [r.id, unfinishedName r.id],
      (isReportName name && name != r.id) = false := by
    simp [isReportName_unfinishedName]
  have hlist := list_of_among hname hname hsound hsaved.confined hnames hclear
  rw [list_and, list_and] at hlist
  have hothers : (d.reportIds t' r.device).map (List.filter (· != r.id)) =
      (d.reportIds t r.device).map (List.filter (· != r.id)) := hlist
  rw [hids', hids] at hothers
  exact Except.ok.inj hothers

/-- The reports of a device that gets a new one are the new one and those that were there before,
which are read as before but for one that is replaced. -/
theorem reportIds_of_saved (hr : Request.IsAdmitted (.saveReport r)) (hsound : t.IsSound)
    (hsaved : Saved d t t' place r) :
    ∃ ids', d.reportIds t' r.device = .ok ids' ∧ r.id ∈ ids' ∧
      ∀ ids, d.reportIds t r.device = .ok ids →
        ids ⊆ ids' ∧
        (ids ≠ [] ∨ t.IsClear (d.reportsOf r.device) →
          ∀ other ∈ ids', other = r.id ∨ other ∈ ids) ∧
        ∀ other ∈ ids, other ≠ r.id →
          d.loadReport t' r.device other = d.loadReport t r.device other := by
  have hname := hr.1.isName
  have hids' : d.reportIds t' r.device = .ok ((t'.filesAt place).filter isReportName) :=
    list_of_leadsTo hsaved.leadsTo
  have hmem : r.id ∈ (t'.filesAt place).filter isReportName :=
    List.mem_filter.mpr ⟨FileTree.mem_filesAt.mpr ⟨_, hsaved.at?_id⟩, isReportName_id r⟩
  generalize (t'.filesAt place).filter isReportName = ids' at hids' hmem
  refine ⟨ids', hids', hmem, ?_⟩
  intro ids hids
  have hothers : t.IsClear (d.reportsOf r.device) → ∀ other, other ≠ r.id →
      (other ∈ ids' ↔ other ∈ ids) := by
    intro hclear other hid
    have heq := congrArg (other ∈ ·)
      (otherReportIds_of_saved hr hsound hsaved hclear hids hids')
    simpa [hid] using heq
  refine ⟨?_, ?_, ?_⟩
  · intro other hother
    by_cases hid : other = r.id
    · rwa [hid]
    · exact (hothers (isClear_of_mem_list hids hother) other hid).mpr hother
  · intro hlisted other hother
    have hclear : t.IsClear (d.reportsOf r.device) := by
      rcases hlisted with hne | hclear
      · obtain ⟨listed, hlisted⟩ := List.exists_mem_of_ne_nil ids hne
        exact isClear_of_mem_list hids hlisted
      · exact hclear
    by_cases hid : other = r.id
    · exact .inl hid
    · exact .inr ((hothers hclear other hid).mp hother)
  · intro other hother hid
    apply loadReport_of_among hname hname hsound hsaved.confined hids hother
    intro _ hmem
    have hreport := keep_of_mem_list hids hother
    rcases List.mem_cons.mp hmem with heq | hmem
    · exact hid heq
    · simp [List.mem_singleton.mp hmem, isReportName_unfinishedName] at hreport

/-! ## Overlong names -/

theorem accepts_letters {n : Nat} (hname : name.toList = List.replicate (n + 1) 'a') :
    Settings.Accepts name := by
  have hstrip : Text.trimList name.toList = name.toList := by
    apply Text.stripList_eq_self
    · intro c hc
      obtain rfl : 'a' = c := by simpa [hname, List.head?_replicate] using hc
      decide
    · intro c hc
      obtain rfl : 'a' = c := by simpa [hname, List.getLast?_replicate] using hc
      decide
  have htrim : Text.trim name = name := by
    rw [Text.trim, hstrip, String.ofList_toList]
  have hne : name ≠ "" := by
    rintro rfl
    simp at hname
  simp [Settings.Accepts, Settings.inventoryProblems, htrim, Settings.isUnsafe, hname, hne,
    List.replicate_succ]

theorem accepts_overlong : Settings.Accepts overlong :=
  accepts_letters (n := 255) toList_overlong

theorem isOverlongIn_empty : (FileTree.mk [] []).IsOverlongIn
    (reportsOf ⟨"snapshots", "reports"⟩ overlong) ["reports"] := by
  have hjoin : reportsOf ⟨"snapshots", "reports"⟩ overlong = "reports" ++ "/" ++ overlong := by
    rw [reportsOf, Path.join, Path.isAbsolute_of_not_mem isName_overlong.slash_not_mem]
    rfl
  have hstart : (FileTree.mk [] []).start (reportsOf ⟨"snapshots", "reports"⟩ overlong) = [] :=
    FileTree.start_join isName_overlong _ "reports"
  refine ⟨?_, by rw [hstart]; rfl, "reports", overlong, [],
    Path.steps_join isName_overlong "reports", by decide, by rw [hstart]; rfl, isName_overlong,
    longestName_lt_overlong⟩
  have hnul : '\x00' ∉ overlong.toList := not_mem_overlong (by decide)
  have hfront : '\x00' ∉ ("reports" ++ "/").toList := by decide
  rw [hjoin]
  refine FileTree.checkPath_eq_ok.mpr ⟨?_, ?_, ?_⟩
  · rw [String.toList_append, List.mem_append, not_or]
    exact ⟨hfront, hnul⟩
  · simp
  · rw [String.utf8ByteSize_append, utf8ByteSize_overlong]
    decide

/-- A failed saving can change which reports are listed: where the path goes up from a directory that
was missing, they are found once it is there, and where the name of a device is overlong, they cannot
be listed once the directory for it is there. -/
theorem reportIds_of_failedSaving :
    let report device := StoredReport.mk device "2024-05-01_1200" "" .els ⟨[], [], .clean⟩
    let detour : Directories := ⟨"snapshots", "missing/../reports"⟩
    let plain : Directories := ⟨"snapshots", "reports"⟩
    Request.IsAdmitted (.saveReport (report "sw1")) ∧
    Request.IsAdmitted (.saveReport (report overlong)) ∧
    obstructed.IsSound ∧ (FileTree.mk [] []).IsSound ∧
    (∃ cause, (detour.saveReport obstructed (report "sw1")).1 = .error cause ∧
      detour.reportIds obstructed "sw1" = .ok [] ∧
      detour.reportIds (detour.saveReport obstructed (report "sw1")).2 "sw1" =
        .ok ["sw1_deviation_2024-04-01_0000.json"]) ∧
    ∃ cause, (plain.saveReport ⟨[], []⟩ (report overlong)).1 = .error cause ∧
      plain.reportIds ⟨[], []⟩ overlong = .ok [] ∧
      plain.reportIds (plain.saveReport ⟨[], []⟩ (report overlong)).2 overlong =
        .error (.files (plain.reportsOf overlong) .nameTooLong) := by
  intro report detour plain
  have hstamp : "2024-05-01_1200" = Stamp.format ⟨2024, 5, 1, 12, 0, 0⟩ := by decide +kernel
  have hsw1 : Settings.Accepts "sw1" := by decide +kernel
  refine ⟨⟨hsw1, _, hstamp⟩, ⟨accepts_overlong, _, hstamp⟩, by decide +kernel, by decide +kernel,
    ⟨.files "missing/../reports/sw1/.sw1_deviation_2024-05-01_1200.json.tmp" .isADirectory,
      ?_, ?_, ?_⟩, ?_⟩
  iterate 3 decide +kernel
  obtain ⟨hbefore, hafter⟩ := reportIds_of_isOverlongIn isOverlongIn_empty rfl
  have hsave : plain.saveReport ⟨[], []⟩ (report overlong) =
      (.error (.files (plain.reportsOf overlong) .nameTooLong),
        (FileTree.mk [] []).put ["reports"] .directory) :=
    saveReport_of_isOverlongIn isOverlongIn_empty rfl
  rw [hsave]
  exact ⟨_, rfl, hbefore, hafter⟩

/-- Saving a report is all or nothing. If it succeeds, the report is listed and read as it was saved,
nothing is left under its unfinished name, and all other reports are as before. If it fails, all
reports are as before, as they are at any time until the report is moved into place. -/
theorem saveReport_atomic (d : Directories) (t : FileTree) (r : StoredReport) (hsound : t.IsSound)
    (hr : Request.IsAdmitted (.saveReport r)) :
    (∀ id t', d.saveReport t r = (.ok id, t') →
      id = r.id ∧ d.loadReport t' r.device id = .ok r ∧
      t'.open? ((d.reportsOf r.device).join (unfinishedName id)) = .error .notFound ∧
      (∃ ids', d.reportIds t' r.device = .ok ids' ∧ id ∈ ids' ∧
        ∀ ids, d.reportIds t r.device = .ok ids →
          ids ⊆ ids' ∧
          (ids ≠ [] ∨ t.IsClear (d.reportsOf r.device) →
            ∀ other ∈ ids', other = id ∨ other ∈ ids) ∧
          ∀ other ∈ ids, other ≠ id →
            d.loadReport t' r.device other = d.loadReport t r.device other) ∧
      ∀ device, Settings.Accepts device → device ≠ r.device → d.SparesReports t t' device) ∧
    (∀ cause t', d.saveReport t r = (.error cause, t') →
      ∀ device, Settings.Accepts device → d.SparesReports t t' device) ∧
    ∀ t', Unmoved d r t t' → ∀ device, Settings.Accepts device → d.SparesReports t t' device := by
  have hslash := slash_not_mem_id_of_isAdmitted hr
  refine ⟨?_, ?_, ?_⟩
  · intro id t' hsave
    obtain ⟨rfl, -⟩ := saveReport_eq_ok hsave
    obtain ⟨place, hsaved⟩ := saved_of_saveReport hslash hsave
    refine ⟨rfl, hsaved.loadReport, open?_unfinished hslash hsave,
      reportIds_of_saved hr hsound hsaved, ?_⟩
    intro device hdevice hne
    exact sparesReports_of_among hdevice.isName hr.1.isName hsound hsaved.confined
      fun heq => absurd heq hne
  · intro cause t' hsave device hdevice
    exact sparesReports_of_unmoved hr hdevice hsound (unmoved_of_saveReport hsave)
  · intro t' hunmoved device hdevice
    exact sparesReports_of_unmoved hr hdevice hsound hunmoved

/-- A tree with what an earlier saving left behind, with reports of two devices, and with a directory
under the name of a report. -/
def crowded : FileTree where
  entries := [(["reports"], .directory), (["reports", "sw1"], .directory),
    (["reports", "sw1", "sw1_deviation_2024-04-01_0000.json"], .file []),
    (["reports", "sw1", "sw1_deviation_2024-05-01_1200.json"], .file []),
    (["reports", "sw1", ".sw1_deviation_2024-05-01_1200.json.tmp"], .file [0x7B]),
    (["reports", "sw1", "sw1_deviation_2024-06-01_1200.json"], .directory),
    (["reports", "sw2"], .directory),
    (["reports", "sw2", "sw2_deviation_2024-04-01_0000.json"], .file [])]
  here := []

/-- One report replaces another one, and one has its place taken by a directory. -/
theorem saveReport_atomic_crowded :
    let d : Directories := ⟨"snapshots", "reports"⟩
    let report stamp := StoredReport.mk "sw1" stamp "" .els ⟨[], [], .clean⟩
    let replaced := (d.saveReport crowded (report "2024-05-01_1200")).2
    let refused := (d.saveReport crowded (report "2024-06-01_1200")).2
    (d.saveReport crowded (report "2024-05-01_1200")).1 =
        .ok "sw1_deviation_2024-05-01_1200.json" ∧
      d.loadReport replaced "sw1" "sw1_deviation_2024-05-01_1200.json" =
        .ok (report "2024-05-01_1200") ∧
      d.reportIds replaced "sw2" = .ok ["sw2_deviation_2024-04-01_0000.json"] ∧
    (d.saveReport crowded (report "2024-06-01_1200")).1 = .error (.files
        "reports/sw1/sw1_deviation_2024-06-01_1200.json" .isADirectory) ∧
      d.reportIds refused "sw1" =
        .ok ["sw1_deviation_2024-04-01_0000.json", "sw1_deviation_2024-05-01_1200.json"] := by
  intro d report replaced refused
  have hsw1 : Settings.Accepts "sw1" := by decide +kernel
  have hsw2 : Settings.Accepts "sw2" := by decide +kernel
  have hsound : crowded.IsSound := by decide +kernel
  have hfirst : Request.IsAdmitted (.saveReport (report "2024-05-01_1200")) :=
    ⟨hsw1, ⟨2024, 5, 1, 12, 0, 0⟩, by decide +kernel⟩
  have hsecond : Request.IsAdmitted (.saveReport (report "2024-06-01_1200")) :=
    ⟨hsw1, ⟨2024, 6, 1, 12, 0, 0⟩, by decide +kernel⟩
  have hsaved : (d.saveReport crowded (report "2024-05-01_1200")).1 =
      .ok "sw1_deviation_2024-05-01_1200.json" := by decide +kernel
  have hfailed : (d.saveReport crowded (report "2024-06-01_1200")).1 = .error (.files
      "reports/sw1/sw1_deviation_2024-06-01_1200.json" .isADirectory) := by decide +kernel
  have hids1 : d.reportIds crowded "sw1" =
      .ok ["sw1_deviation_2024-04-01_0000.json", "sw1_deviation_2024-05-01_1200.json"] := by
    decide +kernel
  have hids2 : d.reportIds crowded "sw2" = .ok ["sw2_deviation_2024-04-01_0000.json"] := by
    decide +kernel
  obtain ⟨-, hload, -, -, hothers⟩ :=
    (saveReport_atomic d crowded _ hsound hfirst).1 _ replaced (Prod.ext hsaved rfl)
  have hrefused := (saveReport_atomic d crowded _ hsound hsecond).2.1 _ refused
    (Prod.ext hfailed rfl) "sw1" hsw1
  exact ⟨hsaved, hload, (hothers "sw2" hsw2 (by decide)).listed _ hids2 (by simp), hfailed,
    hrefused.listed _ hids1 (by simp)⟩

end Conformance.Directories
