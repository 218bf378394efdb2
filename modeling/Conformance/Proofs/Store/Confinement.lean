import Conformance.Proofs.Files.Confinement
import Conformance.Proofs.Files.Soundness
import Conformance.Proofs.Store.Refinement

/-!
# Where reports are written

Reports of a device are written, moved and removed directly in one directory, whatever fails on the
way. Nothing else changes but for directories that are made, so that a device with no reports there is
answered as before.
-/
namespace Conformance

theorem Settings.accepts_of_mem {s : Settings} (h : inventoryProblems [] 0 s.inventory = [])
    {device : Device} (hdevice : device ∈ s.devices) : Accepts device.name := by
  obtain ⟨entry, hentry, rfl⟩ := List.mem_map.mp hdevice
  exact inventoryProblems_singleton h entry hentry

namespace Directories

open FileTree (Confined)

variable {d : Directories} {t t' : FileTree} {root q : Place} {device name : String}
  {names : String → Prop} {r : StoredReport} {ids : List String}

def IsWorkName (name : String) : Prop :=
  Path.IsName name ∧ (isReportName name = true ∨ isSnapshotName name = false)

/-- A place for reports of some devices, below the place for all reports. -/
def Workplace (root : Place) (names : String → Prop) (q : Place) : Prop :=
  ∃ device name, names device ∧ IsWorkName name ∧ q = root ++ [device, name]

theorem not_workplace {root place : Place} (hdevice : ¬ names device) :
    ¬ Workplace root names (place ++ [device, name]) := by
  rintro ⟨_, _, hother, -, heq⟩
  have hlast := List.append_inj_right' heq rfl
  exact hdevice ((List.cons.inj hlast).1 ▸ hother)

theorem target_snapshotsOf (hdevice : Path.IsName device) (d : Directories) (t : FileTree) :
    t.target (d.snapshotsOf device) = t.target d.snapshots ++ [device] :=
  FileTree.target_join hdevice t d.snapshots

theorem target_reportsOf (hdevice : Path.IsName device) (d : Directories) (t : FileTree) :
    t.target (d.reportsOf device) = t.target d.reports ++ [device] :=
  FileTree.target_join hdevice t d.reports

theorem isWorkName_id (h : '/' ∉ r.id.toList) : IsWorkName r.id :=
  ⟨isName_id h, .inl (isReportName_id r)⟩

theorem isWorkName_unfinishedName {id : String} (h : '/' ∉ id.toList) :
    IsWorkName (unfinishedName id) := by
  refine ⟨isName_unfinishedName h, .inr ?_⟩
  rw [isSnapshotName, toList_unfinishedName]
  rfl

theorem slash_not_mem_id_of_isAdmitted (h : Request.IsAdmitted (.saveReport r)) :
    '/' ∉ r.id.toList := by
  obtain ⟨haccepts, now, hstamp⟩ := h
  apply slash_not_mem_id (slash_not_mem_of_safe haccepts.safe)
  rw [hstamp]
  exact Stamp.not_mem_format (by decide) (by decide) now

section Place
variable (hdevice : Settings.Accepts device) (hnames : names device) (hname : IsWorkName name)
include hdevice hnames hname

theorem workplace_of_locate (h : t.locate ((d.reportsOf device).join name) = .ok q) :
    Workplace (t.target d.reports) names q := by
  have hq : q = t.target (d.reportsOf device) ++ [name] :=
    FileTree.locate_join_target hname.1 (Path.join_ne_empty hdevice.isName _) h
  rw [target_reportsOf hdevice.isName, List.append_assoc] at hq
  exact ⟨device, name, hnames, hname, hq⟩

theorem confined_writeFile {bytes : List UInt8}
    (h : t.writeFile ((d.reportsOf device).join name) bytes = .ok t') :
    Confined (Workplace (t.target d.reports) names) t t' := by
  obtain ⟨q, hlocate, hfree, rfl⟩ := FileTree.writeFile_eq_ok h
  exact FileTree.confined_put hfree (workplace_of_locate hdevice hnames hname hlocate) bytes

theorem confined_removeFile (h : t.removeFile ((d.reportsOf device).join name) = .ok t') :
    Confined (Workplace (t.target d.reports) names) t t' := by
  obtain ⟨q, bytes, hlocate, hat, rfl⟩ := FileTree.removeFile_eq_ok h
  have hfree : t.at? q ≠ some .directory := by simp [hat]
  exact FileTree.confined_erase hfree (workplace_of_locate hdevice hnames hname hlocate)

theorem confined_moveFile {name' : String} (hname' : IsWorkName name')
    (h : t.moveFile ((d.reportsOf device).join name') ((d.reportsOf device).join name) = .ok t') :
    Confined (Workplace (t.target d.reports) names) t t' := by
  obtain ⟨q, q', bytes, hsource, hat, htarget, hfree', rfl⟩ := FileTree.moveFile_eq_ok h
  have hfree : t.at? q ≠ some .directory := by simp [hat]
  have hfree'' : (t.erase q).at? q' ≠ some .directory := by
    rw [FileTree.at?_erase (FileTree.ne_nil_of_free hfree)]
    split
    · simp
    · exact hfree'
  exact (FileTree.confined_erase hfree (workplace_of_locate hdevice hnames hname' hsource)).trans
    (FileTree.confined_put hfree'' (workplace_of_locate hdevice hnames hname htarget) bytes)

end Place

theorem confined_saveReport (hr : Request.IsAdmitted (.saveReport r)) (hnames : names r.device)
    (t : FileTree) : Confined (Workplace (t.target d.reports) names) t (d.saveReport t r).2 := by
  have hslash := slash_not_mem_id_of_isAdmitted hr
  have hid := isWorkName_id hslash
  have hunfinished := isWorkName_unfinishedName hslash
  have hmade := (FileTree.makeDirectories_grows t (d.reportsOf r.device)).confined
    (Workplace (t.target d.reports) names)
  have htarget : ∀ {t' : FileTree}, Confined (Workplace (t.target d.reports) names) t t' →
      t'.target d.reports = t.target d.reports :=
    fun h => FileTree.target_congr h.keeps.here d.reports
  unfold saveReport
  simp only
  split
  · next hmake =>
    rw [hmake] at hmade
    exact hmade
  · next made hmake =>
    rw [hmake] at hmade
    split
    · exact hmade
    · next written hwrite =>
      have hwritten := confined_writeFile hr.1 hnames hunfinished hwrite
      rw [htarget hmade] at hwritten
      have hwritten := hmade.trans hwritten
      split
      · cases hremove : written.removeFile ((d.reportsOf r.device).join (unfinishedName r.id)) with
        | error cause => exact hwritten
        | ok removed =>
          have hremoved := confined_removeFile hr.1 hnames hunfinished hremove
          rw [htarget hwritten] at hremoved
          exact hwritten.trans hremoved
      · next moved hmove =>
        have hmoved := confined_moveFile hr.1 hnames hid hunfinished hmove
        rw [htarget hwritten] at hmoved
        exact hwritten.trans hmoved

theorem confined_removeAll (hdevice : Settings.Accepts device) (hnames : names device)
    (hids : ∀ name ∈ ids, IsWorkName name) (t : FileTree) :
    Confined (Workplace (t.target d.reports) names) t (removeAll t (d.reportsOf device) ids).2 := by
  induction ids generalizing t with
  | nil => exact .refl _ t
  | cons name ids ih =>
    rw [List.forall_mem_cons] at hids
    rw [removeAll_cons]
    split
    · exact .refl _ t
    · next removed hremove =>
      have hremoved := confined_removeFile hdevice hnames hids.1 hremove
      have hrest := ih hids.2 removed
      rw [FileTree.target_congr hremoved.keeps.here] at hrest
      exact hremoved.trans hrest

theorem confined_discardReports (hsound : t.IsSound) (hdevice : Settings.Accepts device)
    (hnames : names device) :
    Confined (Workplace (t.target d.reports) names) t (d.discardReports t device).2 := by
  cases hids : d.reportIds t device with
  | error cause =>
    unfold discardReports
    rw [hids]
    exact .refl _ t
  | ok ids =>
    rw [discardReports_eq hids]
    apply confined_removeAll hdevice hnames
    intro name hname
    exact ⟨isName_of_mem_list hsound hids hname, .inl (keep_of_mem_list hids hname)⟩

/-! ## Soundness -/

theorem sound_removeAll (hsound : t.IsSound) (p : Path) (ids : List String) :
    (removeAll t p ids).2.IsSound := by
  induction ids generalizing t with
  | nil => exact hsound
  | cons name ids ih =>
    rw [removeAll_cons]
    split
    · exact hsound
    · next hremove => exact ih (hsound.removeFile hremove)

theorem sound_saveReport (hsound : t.IsSound) (hr : Request.IsAdmitted (.saveReport r)) :
    (d.saveReport t r).2.IsSound := by
  have hslash := slash_not_mem_id_of_isAdmitted hr
  have hdirectory : d.reportsOf r.device ≠ "" := Path.join_ne_empty hr.1.isName d.reports
  have hsteps : Path.steps (d.reportsOf r.device) = Path.steps d.reports ++ [r.device] :=
    Path.steps_join hr.1.isName d.reports
  have hmade := hsound.makeDirectories (p := d.reportsOf r.device) (by simp [hsteps])
  unfold saveReport
  simp only
  split
  · next hmake =>
    rw [hmake] at hmade
    exact hmade
  · next made hmake =>
    rw [hmake] at hmade
    split
    · exact hmade
    · next written hwrite =>
      have hwritten := hmade.writeFile hdirectory (isName_unfinishedName hslash) hwrite
      split
      · cases hremove : written.removeFile ((d.reportsOf r.device).join (unfinishedName r.id)) with
        | error cause => exact hwritten
        | ok removed => exact hwritten.removeFile hremove
      · next moved hmove => exact hwritten.moveFile hdirectory (isName_id hslash) hmove

theorem discardReports_snd (t : FileTree) (device : String) :
    (d.discardReports t device).2 = t ∨
      ∃ ids, (d.discardReports t device).2 = (removeAll t (d.reportsOf device) ids).2 := by
  cases hids : d.reportIds t device with
  | error cause =>
    left
    unfold discardReports
    rw [hids]
  | ok ids => exact .inr ⟨ids, congrArg Prod.snd (discardReports_eq hids)⟩

theorem sound_discardReports (hsound : t.IsSound) (device : String) :
    (d.discardReports t device).2.IsSound := by
  rcases discardReports_snd t device with heq | ⟨ids, heq⟩
  · rwa [heq]
  · rw [heq]
    exact sound_removeAll hsound _ ids

theorem keeps_removeAll (t : FileTree) (p : Path) (ids : List String) :
    t.Keeps (removeAll t p ids).2 := by
  induction ids generalizing t with
  | nil => exact .refl t
  | cons name ids ih =>
    rw [removeAll_cons]
    split
    · exact .refl t
    · next removed hremove =>
      obtain ⟨q, bytes, -, hat, rfl⟩ := FileTree.removeFile_eq_ok hremove
      exact (FileTree.keeps_erase (by simp [hat])).trans (ih _)

theorem keeps_discardReports (t : FileTree) (device : String) :
    t.Keeps (d.discardReports t device).2 := by
  rcases discardReports_snd t device with heq | ⟨ids, heq⟩
  · rw [heq]
    exact .refl t
  · rw [heq]
    exact keeps_removeAll t _ ids

/-! ## What others see -/

theorem list_eq (t : FileTree) (p : Path) (keep : String → Bool) :
    list t p keep =
      match (t.listFiles p).map (List.filter keep) with
      | .ok names => .ok names
      | .error .notFound => .ok []
      | .error cause => .error (.files p cause) := by
  rw [list]
  cases t.listFiles p with
  | ok names => rfl
  | error cause => cases cause <;> rfl

section Others
variable {within : Place → Prop} {p : Path} {keep : String → Bool} (h : Confined within t t')
  (hsound : t.IsSound)
include h hsound

theorem list_of_confined (hin : ∀ name, keep name = true → ¬ within (t.target p ++ [name]))
    (hclear : t.IsClear p)
    (hway : ∀ q, within q → q <+: t.target p → t.at? q = some .directory) :
    list t' p keep = list t p keep := by
  rw [list_eq, list_eq]
  rcases FileTree.listFiles_of_isClear h hway hsound hin hclear with hsame | ⟨hthen, hnow⟩
  · rw [hsame]
  · rw [hthen, hnow]
    rfl

theorem readBytes_of_confined {id : String} (hids : list t p keep = .ok ids) (hid : id ∈ ids)
    (hin : ¬ within (t.target p ++ [id])) :
    t'.readBytes (p.join id) = t.readBytes (p.join id) := by
  obtain ⟨place, hlead⟩ := leadsTo_of_mem_list hids hid
  have hname := isName_of_mem_list hsound hids hid
  rw [list_of_leadsTo hlead] at hids
  cases hids
  obtain ⟨bytes, hat⟩ := FileTree.mem_filesAt.mp (List.mem_filter.mp hid).1
  have hat' : t'.at? (place ++ [id]) = some (.file bytes) := by
    rw [h.file, hat]
    rw [hlead.eq_target]
    exact hin
  exact readBytes_eq hlead h.keeps hname hat hat'

omit hsound in
theorem mem_list_of_confined (hin : ∀ name, ¬ within (t.target p ++ [name]))
    {ids' : List String} {id : String} (hids : list t p keep = .ok ids)
    (hids' : list t' p keep = .ok ids') (hid : id ∈ ids) : id ∈ ids' := by
  obtain ⟨place, hlead⟩ := leadsTo_of_mem_list hids hid
  obtain rfl := hlead.eq_target
  obtain rfl := Except.ok.inj ((list_of_leadsTo hlead).symm.trans hids)
  obtain rfl := Except.ok.inj ((list_of_leadsTo (hlead.mono h.keeps)).symm.trans hids')
  rwa [h.filesAt hin]

end Others

theorem loadReport_congr {id : String}
    (h : t'.readBytes ((d.reportsOf device).join id) = t.readBytes ((d.reportsOf device).join id)) :
    d.loadReport t' device id = d.loadReport t device id := by
  unfold loadReport
  dsimp only
  rw [h]

section Loads
variable {within : Place → Prop} {id : String} (h : Confined within t t') (hsound : t.IsSound)
include h hsound

theorem loadSnapshot_of_confined
    (hin : ∀ name, ¬ within (t.target (d.snapshotsOf device) ++ [name]))
    (hids : list t (d.snapshotsOf device) isSnapshotName = .ok ids) (hid : id ∈ ids) :
    d.loadSnapshot t' device id = d.loadSnapshot t device id := by
  have hread := readBytes_of_confined h hsound hids hid (hin id)
  unfold loadSnapshot FileTree.readText
  dsimp only
  rw [hread]

theorem loadReport_of_confined
    (hin : ∀ name, ¬ within (t.target (d.reportsOf device) ++ [name]))
    (hids : d.reportIds t device = .ok ids) (hid : id ∈ ids) :
    d.loadReport t' device id = d.loadReport t device id :=
  loadReport_congr (readBytes_of_confined h hsound hids hid (hin id))

end Loads

end Directories
end Conformance
