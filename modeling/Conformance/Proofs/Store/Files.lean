import Conformance.Proofs.Files.Ways
import Conformance.Proofs.Refresh.Course
import Conformance.Proofs.Store.StoredReport
import Conformance.Proofs.Time.Stamp
import Conformance.Settings.Problem
import Conformance.Store.Files

/-!
# What stores in file trees do

Saving a report puts one file into the directory of the device, whose path leads there from then on.
A listing is known by the files in that directory even from before the path led anywhere, unless
the path goes up again from a directory that was still to be made.
-/
namespace Conformance

theorem Text.occursIn_append (part before after : List Char) :
    Text.occursIn part (before ++ (part ++ after)) = true := by
  have hprefix : part.isPrefixOf (part ++ after) = true := by simp
  induction before with
  | nil =>
    rw [List.nil_append]
    cases hs : part ++ after with
    | nil =>
      rw [(List.append_eq_nil_iff.mp hs).1]
      rfl
    | cons c s =>
      rw [hs] at hprefix
      rw [Text.occursIn, hprefix, Bool.true_or]
  | cons c before ih => rw [List.cons_append, Text.occursIn, ih, Bool.or_true]

namespace Directories

variable {d : Directories} {t t' t'' : FileTree} {p : Path} {place : Place} {device name : String}
  {force : Bool} {keep : String → Bool} {ids names : List String} {r : StoredReport} {n : Nat}

theorem keepsOnReading (d : Directories) : Store.KeepsOnReading d.store :=
  ⟨fun _ _ => rfl, fun _ _ _ => rfl, fun _ _ => rfl, fun _ _ _ => rfl⟩

/-! ## Names of reports -/

theorem toList_id (r : StoredReport) :
    r.id.toList = r.device.toList ++ ("_deviation_".toList ++
      (r.generatedAt.toList ++ ".json".toList)) := by
  simp [StoredReport.id, StoredReport.idOf, String.toList_append]

theorem isReportName_id (r : StoredReport) : isReportName r.id = true := by
  rw [isReportName, Bool.and_eq_true, List.isSuffixOf_iff_suffix, toList_id]
  refine ⟨Text.occursIn_append _ _ _, ?_⟩
  exact ((List.suffix_append _ _).trans (List.suffix_append _ _)).trans (List.suffix_append _ _)

theorem slash_not_mem_id (hdevice : '/' ∉ r.device.toList) (hstamp : '/' ∉ r.generatedAt.toList) :
    '/' ∉ r.id.toList := by
  rw [toList_id]
  simp only [List.mem_append, not_or]
  exact ⟨hdevice, by decide, hstamp, by decide⟩

theorem isName_of_length (hslash : '/' ∉ name.toList) (hlength : 2 < name.toList.length) :
    Path.IsName name := by
  refine ⟨hslash, ?_, ?_, ?_⟩
  all_goals
    rintro rfl
    exact absurd hlength (by decide)

theorem isName_id (hslash : '/' ∉ r.id.toList) : Path.IsName r.id := by
  refine isName_of_length hslash ?_
  rw [toList_id]
  simp only [List.length_append, String.length_toList]
  have hmark : "_deviation_".length = 11 := rfl
  omega

theorem toList_unfinishedName (id : String) :
    (unfinishedName id).toList = '.' :: (id.toList ++ ".tmp".toList) := by
  simp [unfinishedName, String.toList_append]

theorem isName_unfinishedName {id : String} (hslash : '/' ∉ id.toList) :
    Path.IsName (unfinishedName id) := by
  refine isName_of_length ?_ ?_
  · rw [toList_unfinishedName]
    simp only [List.mem_cons, List.mem_append, not_or]
    exact ⟨by decide, hslash, by decide⟩
  · rw [toList_unfinishedName]
    have hend : ".tmp".toList.length = 4 := rfl
    simp only [List.length_cons, List.length_append]
    omega

/-! ## Listing -/

/-- The listing of a path that a later tree leads to a place has the files at that place. -/
theorem mem_list (hsound : t.IsSound) (hroute : ".." ∉ Path.steps p ∨ t.isDirectory p = true)
    (hkeeps : t.Keeps t') (hlead : t'.LeadsTo p place) (h : list t p keep = .ok ids) :
    name ∈ ids ↔ keep name = true ∧ ∃ bytes, t.at? (place ++ [name]) = some (.file bytes) := by
  rw [list] at h
  split at h
  · next found hlist =>
    cases h
    obtain ⟨place', hlead', rfl⟩ := FileTree.leadsTo_of_listFiles hlist
    rw [List.mem_filter, FileTree.mem_filesAt, (hlead'.mono hkeeps).unique hlead, and_comm]
  · next hlist =>
    cases h
    refine ⟨fun h => absurd h List.not_mem_nil, ?_⟩
    rintro ⟨-, bytes, hat⟩
    have hleads : ∃ place', t.LeadsTo p place' := by
      rcases hroute with hup | hdirectory
      · have hwalk := hlead.walk
        rw [FileTree.start, hkeeps.here] at hwalk
        exact ⟨place, hlead.checked, hsound.walk hup hwalk (hsound.directory hat),
          hsound.directory hat⟩
      · exact FileTree.leadsTo_of_isDirectory hdirectory
    obtain ⟨place', hlead'⟩ := hleads
    rw [FileTree.listFiles_of_leadsTo hlead'] at hlist
    cases hlist
  · cases h

theorem leadsTo_of_mem_list (h : list t p keep = .ok ids) (hname : name ∈ ids) :
    ∃ place, t.LeadsTo p place := by
  rw [list] at h
  split at h
  · next hlist =>
    obtain ⟨place, hlead, -⟩ := FileTree.leadsTo_of_listFiles hlist
    exact ⟨place, hlead⟩
  · cases h
    exact absurd hname List.not_mem_nil
  · cases h

theorem list_of_leadsTo (h : t.LeadsTo p place) :
    list t p keep = .ok ((t.filesAt place).filter keep) := by
  rw [list, FileTree.listFiles_of_leadsTo h]

theorem keep_of_mem_list (h : list t p keep = .ok ids) (hname : name ∈ ids) : keep name = true := by
  obtain ⟨place, hlead⟩ := leadsTo_of_mem_list h hname
  rw [list_of_leadsTo hlead] at h
  cases h
  exact (List.mem_filter.mp hname).2

theorem isName_of_mem_list (hsound : t.IsSound) (h : list t p keep = .ok ids) (hname : name ∈ ids) :
    Path.IsName name := by
  obtain ⟨place, hlead⟩ := leadsTo_of_mem_list h hname
  rw [list_of_leadsTo hlead] at h
  cases h
  obtain ⟨bytes, hat⟩ := FileTree.mem_filesAt.mp (List.mem_filter.mp hname).1
  exact hsound.isName hat

/-! ## Discarding -/

/-- A tree has what another one has without some names of a directory. -/
structure Lacks (t t' : FileTree) (place : Place) (names : List String) : Prop where
  keeps : t.Keeps t'
  at?_eq : ∀ q, t'.at? q = if ∃ name ∈ names, q = place ++ [name] then none else t.at? q

theorem Lacks.refl (t : FileTree) (place : Place) : Lacks t t place [] :=
  ⟨.refl t, fun q => by simp⟩

theorem Lacks.file (h : Lacks t t' place names) (q : Place) (bytes : List UInt8) :
    t'.at? q = some (.file bytes) ↔
      t.at? q = some (.file bytes) ∧ ∀ name ∈ names, q ≠ place ++ [name] := by
  rw [h.at?_eq]
  split
  · next hgone =>
    obtain ⟨name, hname, rfl⟩ := hgone
    refine ⟨fun hnone => ?_, fun hkept => absurd rfl (hkept.2 name hname)⟩
    cases hnone
  · next hkept => exact (and_iff_left fun name hname heq => hkept ⟨name, hname, heq⟩).symm

theorem removeAll_nil (t : FileTree) (p : Path) : removeAll t p [] = (.ok (), t) :=
  (rfl)

theorem removeAll_cons (t : FileTree) (p : Path) (name : String) (names : List String) :
    removeAll t p (name :: names) =
      match t.removeFile (p.join name) with
      | .error cause => (.error (.files (p.join name) cause), t)
      | .ok t => removeAll t p names :=
  (rfl)

theorem removeAll_lacks (hlead : t.LeadsTo p place) (hnames : ∀ name ∈ names, Path.IsName name)
    (h : removeAll t p names = (.ok (), t')) : Lacks t t' place names := by
  induction names generalizing t with
  | nil =>
    rw [removeAll_nil] at h
    obtain rfl := (Prod.mk.inj h).2
    exact .refl t place
  | cons name names ih =>
    rw [removeAll_cons] at h
    split at h
    · cases h
    · next removed hremove =>
      obtain ⟨q, bytes, hlocate, hat, rfl⟩ := FileTree.removeFile_eq_ok hremove
      obtain rfl := hlead.place_of_locate (hnames name List.mem_cons_self) hlocate
      have hkeeps : t.Keeps (t.erase (place ++ [name])) :=
        FileTree.keeps_erase (by rw [hat]; simp)
      have hrest := ih (hlead.mono hkeeps) (fun x hx => hnames x (List.mem_cons_of_mem name hx)) h
      refine ⟨hkeeps.trans hrest.keeps, ?_⟩
      intro q
      rw [hrest.at?_eq, FileTree.at?_erase (by simp)]
      by_cases hq : q = place ++ [name]
      · simp [hq]
      · simp [hq]

theorem discarded (hsound : t.IsSound)
    (h : Auditor.discard d.store device force t = (.ok n, t')) :
    ∃ gone, (if force then d.reportIds t device = .ok gone else gone = []) ∧
      ∀ place, (gone ≠ [] → t.LeadsTo (d.reportsOf device) place) → Lacks t t' place gone := by
  cases force with
  | false =>
    have hnone : Auditor.discard d.store device false t = (.ok 0, t) := rfl
    rw [hnone] at h
    obtain rfl := (Prod.mk.inj h).2
    exact ⟨[], rfl, fun place _ => .refl _ place⟩
  | true =>
    change d.discardReports t device = (.ok n, t') at h
    unfold discardReports at h
    split at h
    · cases h
    · next gone hgone =>
      refine ⟨gone, hgone, ?_⟩
      intro place hplace
      obtain ⟨hresult, rfl⟩ := Prod.mk.inj h
      have hremove : (removeAll t (d.reportsOf device) gone).1 = .ok () := by
        cases hcause : (removeAll t (d.reportsOf device) gone).1 with
        | error cause => rw [hcause] at hresult; cases hresult
        | ok => rfl
      cases gone with
      | nil => exact .refl t place
      | cons name names =>
        have hlead := hplace (List.cons_ne_nil _ _)
        apply removeAll_lacks hlead _ (Prod.ext hremove rfl)
        intro name hname
        exact isName_of_mem_list hsound hgone hname

/-! ## Saving -/

structure Saved (d : Directories) (t t' : FileTree) (place : Place) (r : StoredReport) : Prop where
  keeps : t.Keeps t'
  leadsTo : t'.LeadsTo (d.reportsOf r.device) place
  located : t'.locate ((d.reportsOf r.device).join r.id) = .ok (place ++ [r.id])
  at?_eq : ∀ q, t'.at? q =
    if q = place ++ [r.id] then some (.file (Text.toBytes r.encode))
    else if q = place ++ [unfinishedName r.id] then none
    else (t.makeDirectories (d.reportsOf r.device)).2.at? q

theorem Saved.file (h : Saved d t t' place r) (q : Place) (bytes : List UInt8) :
    t'.at? q = some (.file bytes) ↔
      if q = place ++ [r.id] then bytes = Text.toBytes r.encode
      else q ≠ place ++ [unfinishedName r.id] ∧ t.at? q = some (.file bytes) := by
  rw [h.at?_eq, ← (FileTree.makeDirectories_grows t (d.reportsOf r.device)).file]
  split
  · simp [eq_comm]
  · split <;> simp [*]

theorem saved_of_move {written : FileTree}
    (hmake : t.makeDirectories (d.reportsOf r.device) = (.ok (), t')) (hname : Path.IsName r.id)
    (hunfinished : Path.IsName (unfinishedName r.id))
    (hwrite : t'.writeFile ((d.reportsOf r.device).join (unfinishedName r.id))
      (Text.toBytes r.encode) = .ok written)
    (hmove : written.moveFile ((d.reportsOf r.device).join (unfinishedName r.id))
      ((d.reportsOf r.device).join r.id) = .ok t'') : ∃ place, Saved d t t'' place r := by
  have hgrows := FileTree.makeDirectories_grows t (d.reportsOf r.device)
  rw [hmake] at hgrows
  obtain ⟨unfinished, hlocate, hfree, rfl⟩ := FileTree.writeFile_eq_ok hwrite
  obtain ⟨place, hlead, hplace⟩ := FileTree.leadsTo_of_locate_join
    (FileTree.checked_of_makeDirectories hmake) hunfinished hlocate
  have hkeeps := FileTree.keeps_put_file hfree (Text.toBytes r.encode)
  have hlead' := hlead.mono hkeeps
  obtain ⟨source, target, bytes, hsource, hat, htarget, hfree', rfl⟩ :=
    FileTree.moveFile_eq_ok hmove
  obtain rfl : source = unfinished := (hlead'.place_of_locate hunfinished hsource).trans hplace.symm
  obtain rfl := hlead'.place_of_locate hname htarget
  have hput : ∀ q, (t'.put source (.file (Text.toBytes r.encode))).at? q =
      if q = source then some (.file (Text.toBytes r.encode)) else t'.at? q :=
    FileTree.at?_put (FileTree.ne_nil_of_free hfree)
  rw [hput, if_pos rfl] at hat
  cases hat
  have hmoved := FileTree.keeps_move (by rw [hput, if_pos rfl]; simp) hfree' (Text.toBytes r.encode)
  refine ⟨place, hgrows.keeps.trans (hkeeps.trans hmoved), hlead'.mono hmoved,
    FileTree.locate_mono hmoved htarget, fun q => ?_⟩
  rw [FileTree.at?_move (FileTree.ne_nil_of_free hfree) (by simp), hput, ← hplace, hmake]
  by_cases hq : q = source
  · simp [hq]
  · simp [hq]

theorem Saved.at?_id (h : Saved d t t' place r) :
    t'.at? (place ++ [r.id]) = some (.file (Text.toBytes r.encode)) :=
  (h.file _ _).mpr (by rw [if_pos rfl])

theorem loadReport_of_readBytes {id : String} {bytes : List UInt8}
    (h : t.readBytes ((d.reportsOf device).join id) = .ok bytes) :
    d.loadReport t device id =
      (StoredReport.ofBytes? bytes).elim (.error (.corrupt id)) .ok := by
  unfold loadReport
  simp only [h]
  cases StoredReport.ofBytes? bytes <;> rfl

theorem loadReport_of_file {id : String} {q : Place}
    (hlocate : t.locate ((d.reportsOf device).join id) = .ok q)
    (hat : t.at? q = some (.file (Text.toBytes r.encode))) : d.loadReport t device id = .ok r := by
  rw [loadReport_of_readBytes (FileTree.readBytes_of_file hlocate hat), StoredReport.ofBytes?_encode,
    Option.elim_some]

theorem Saved.loadReport (h : Saved d t t' place r) : d.loadReport t' r.device r.id = .ok r :=
  loadReport_of_file h.located h.at?_id

theorem saveReport_eq_ok {id : String} (h : d.saveReport t r = (.ok id, t')) :
    id = r.id ∧ ∃ made written,
      t.makeDirectories (d.reportsOf r.device) = (.ok (), made) ∧
      made.writeFile ((d.reportsOf r.device).join (unfinishedName r.id))
        (Text.toBytes r.encode) = .ok written ∧
      written.moveFile ((d.reportsOf r.device).join (unfinishedName r.id))
        ((d.reportsOf r.device).join r.id) = .ok t' := by
  unfold saveReport at h
  simp only at h
  split at h
  · cases h
  · next made hmake =>
    split at h
    · cases h
    · next written hwrite =>
      split at h
      · cases h
      · next moved hmove =>
        obtain ⟨hid, rfl⟩ := Prod.mk.inj h
        exact ⟨(Except.ok.inj hid).symm, made, written, hmake, hwrite, hmove⟩

theorem saved_of_saveReport {id : String} (hslash : '/' ∉ r.id.toList)
    (h : d.saveReport t r = (.ok id, t')) : ∃ place, Saved d t t' place r := by
  obtain ⟨-, made, written, hmake, hwrite, hmove⟩ := saveReport_eq_ok h
  exact saved_of_move hmake (isName_id hslash) (isName_unfinishedName hslash) hwrite hmove

/-! ## Refreshing -/

theorem slash_not_mem_of_safe (h : Settings.isUnsafe name = false) : '/' ∉ name.toList := by
  simp only [Settings.isUnsafe, Bool.or_eq_false_iff] at h
  simpa using h.1.1

theorem head?_ne_of_safe (h : Settings.isUnsafe name = false) : name.toList.head? ≠ some '.' := by
  simp only [Settings.isUnsafe, Bool.or_eq_false_iff] at h
  simpa using h.2

theorem up_not_mem_reportsOf (hdevice : Settings.isUnsafe device = false)
    (hup : ".." ∉ Path.steps d.reports) : ".." ∉ Path.steps (d.reportsOf device) := by
  intro h
  rcases Path.mem_steps_join (slash_not_mem_of_safe hdevice) h with h | rfl
  · exact hup h
  · exact head?_ne_of_safe hdevice rfl

theorem file_of_saved {gone : List String} (hlacks : Lacks t t' place gone)
    (hsaved : Saved d t' t'' place r) {q : Place} {bytes : List UInt8}
    (h : t''.at? q = some (.file bytes)) : q = place ++ [r.id] ∨
      t.at? q = some (.file bytes) ∧ ∀ name ∈ gone, q ≠ place ++ [name] := by
  rw [hsaved.file] at h
  split at h
  · next hq => exact .inl hq
  · exact .inr ((hlacks.file q bytes).mp h.2)

theorem isSnapshotName_id (hdevice : Settings.isUnsafe r.device = false) :
    isSnapshotName r.id = true := by
  have hhead := head?_ne_of_safe hdevice
  rw [isSnapshotName, toList_id]
  cases hlist : r.device.toList with
  | nil => rfl
  | cons c s =>
    rw [hlist] at hhead
    simpa using hhead

/-- The reports that were discarded are those of the place that the new report is at. -/
theorem lacks_of_saved {gone : List String} (hgone : list t (d.reportsOf r.device) keep = .ok gone)
    (hlacks : ∀ place, (gone ≠ [] → t.LeadsTo (d.reportsOf r.device) place) → Lacks t t' place gone)
    (hsaved : Saved d t' t'' place r) : Lacks t t' place gone := by
  apply hlacks
  intro hne
  obtain ⟨name, hname⟩ := List.exists_mem_of_ne_nil gone hne
  obtain ⟨place', hlead⟩ := leadsTo_of_mem_list hgone hname
  have hkeeps := (hlacks place' fun _ => hlead).keeps.trans hsaved.keeps
  rwa [(hlead.mono hkeeps).unique hsaved.leadsTo] at hlead

theorem reports_of_saved {gone old : List String} (hsound : t.IsSound)
    (hroute : ".." ∉ Path.steps (d.reportsOf r.device) ∨ t.isDirectory (d.reportsOf r.device) = true)
    (hlacks : Lacks t t' place gone) (hsaved : Saved d t' t'' place r)
    (hold : d.reportIds t r.device = .ok old) :
    ∃ new, d.reportIds t'' r.device = .ok new ∧ r.id ∈ new ∧
      ∀ id ∈ new, id = r.id ∨ id ∉ gone ∧ id ∈ old := by
  refine ⟨_, list_of_leadsTo hsaved.leadsTo, ?_, ?_⟩
  · exact List.mem_filter.mpr ⟨FileTree.mem_filesAt.mpr ⟨_, hsaved.at?_id⟩, isReportName_id r⟩
  · intro id hid
    obtain ⟨hfile, hname⟩ := List.mem_filter.mp hid
    obtain ⟨bytes, hat⟩ := FileTree.mem_filesAt.mp hfile
    rcases file_of_saved hlacks hsaved hat with heq | ⟨hat, hkept⟩
    · exact .inl (List.cons.inj (List.append_cancel_left heq)).1
    · refine .inr ⟨fun hgone => hkept id hgone rfl, ?_⟩
      exact (mem_list hsound hroute (hlacks.keeps.trans hsaved.keeps) hsaved.leadsTo hold).mpr
        ⟨hname, bytes, hat⟩

theorem snapshots_of_saved {gone old : List String} {snapshot : String}
    (hdevice : Settings.isUnsafe r.device = false) (hlacks : Lacks t t' place gone)
    (hsaved : Saved d t' t'' place r)
    (hold : list t (d.snapshotsOf device) isSnapshotName = .ok old) (hsnapshot : snapshot ∈ old) :
    ∃ new, list t'' (d.snapshotsOf device) isSnapshotName = .ok new ∧
      (snapshot ∈ new ∨ r.id ∈ new) ∧ ∀ id ∈ new, id = r.id ∨ id ∈ old := by
  obtain ⟨place', hlead⟩ := leadsTo_of_mem_list hold hsnapshot
  rw [list_of_leadsTo hlead] at hold
  cases hold
  have hlead' := hlead.mono (hlacks.keeps.trans hsaved.keeps)
  refine ⟨_, list_of_leadsTo hlead', ?_, ?_⟩
  · by_cases hplace : place' = place
    · subst hplace
      exact .inr (List.mem_filter.mpr
        ⟨FileTree.mem_filesAt.mpr ⟨_, hsaved.at?_id⟩, isSnapshotName_id hdevice⟩)
    · have hother : ∀ name name', place' ++ [name] ≠ place ++ [name'] := by
        intro name name' heq
        exact hplace (List.append_inj_left' heq rfl)
      obtain ⟨hfile, hname⟩ := List.mem_filter.mp hsnapshot
      obtain ⟨bytes, hat⟩ := FileTree.mem_filesAt.mp hfile
      refine .inl (List.mem_filter.mpr ⟨FileTree.mem_filesAt.mpr ⟨bytes, ?_⟩, hname⟩)
      rw [hsaved.file, if_neg (hother _ _), hlacks.file]
      exact ⟨hother _ _, hat, fun _ _ => hother _ _⟩
  · intro id hid
    obtain ⟨hfile, hname⟩ := List.mem_filter.mp hid
    obtain ⟨bytes, hat⟩ := FileTree.mem_filesAt.mp hfile
    rcases file_of_saved hlacks hsaved hat with heq | ⟨hat, -⟩
    · exact .inl (List.cons.inj (List.append_inj_right' heq rfl)).1
    · exact .inr (List.mem_filter.mpr ⟨FileTree.mem_filesAt.mpr ⟨bytes, hat⟩, hname⟩)

theorem renewed {snapshot id : String} (hsound : t.IsSound)
    (hdevice : Settings.isUnsafe r.device = false) (hstamp : '/' ∉ r.generatedAt.toList)
    (hroute : ".." ∉ Path.steps (d.reportsOf r.device) ∨ t.isDirectory (d.reportsOf r.device) = true)
    (hdiscard : Auditor.discard d.store r.device force t = (.ok n, t'))
    (hsave : d.saveReport t' r = (.ok id, t'')) :
    Store.Renewed d.store r.device force snapshot r t t'' := by
  have hslash := slash_not_mem_id (slash_not_mem_of_safe hdevice) hstamp
  obtain ⟨place, hsaved⟩ := saved_of_saveReport hslash hsave
  obtain ⟨gone, hgone, hlacks⟩ := discarded hsound hdiscard
  have hlacks : Lacks t t' place gone := by
    cases force with
    | true => exact lacks_of_saved hgone hlacks hsaved
    | false => exact hlacks place fun hne => absurd hgone hne
  refine ⟨?_, ?_, hsaved.loadReport⟩
  · intro old hold
    obtain ⟨new, hnew, hmem, hall⟩ := reports_of_saved hsound hroute hlacks hsaved hold
    refine ⟨new, hnew, hmem, ?_⟩
    intro id hid
    apply (hall id hid).imp_right
    rintro ⟨hkept, hid⟩
    cases force with
    | false => exact ⟨rfl, hid⟩
    | true =>
      obtain rfl : gone = old := Except.ok.inj (hgone.symm.trans hold)
      exact absurd hid hkept
  · intro old hold hsnapshot
    exact snapshots_of_saved hdevice hlacks hsaved hold hsnapshot

end Directories
end Conformance
