import Conformance.Proofs.Files.Passage
import Conformance.Proofs.Store.Confinement

/-!
# Stores within the limits

A store whose names and paths keep within the limits of trees is not let down by the system as long
as no files are on the ways to its directories. It puts none there itself.
-/
namespace Conformance

def Request.IsWithinLimits (d : Directories) : Request → Prop
  | .snapshotIds device => FileTree.IsWithinLimits (d.snapshotsOf device)
  | .loadSnapshot device id => FileTree.IsWithinLimits ((d.snapshotsOf device).join id)
  | .reportIds device | .discardReports device => FileTree.IsWithinLimits (d.reportsOf device)
  | .loadReport device id => FileTree.IsWithinLimits ((d.reportsOf device).join id)
  | .saveReport r =>
    FileTree.IsWithinLimits ((d.reportsOf r.device).join (Directories.unfinishedName r.id))

namespace Directories

open FileTree

variable {d : Directories} {t t' : FileTree} {m : Memory} {p root : Path} {place : Place}
  {device id : String} {names contents : List String} {r : StoredReport}

/-! ## Free ways -/

/-- No file is on the way to the directory of any device. -/
def IsFree (d : Directories) (t : FileTree) : Prop :=
  ∀ root ∈ d.roots, ∀ device, Path.IsName device → t.IsFree (root.join device)

theorem isFree_of_no_files (hhere : t.at? t.here = some .directory)
    (hfiles : ∀ q bytes, t.at? q ≠ some (.file bytes)) : d.IsFree t := by
  refine fun root _ device _ => ⟨?_, fun q _ => hfiles q⟩
  rw [start]
  split
  · rfl
  · exact hhere

theorem AreApart.not_isShelf (h : d.AreApart t) (hp : p ∈ d.roots) (hroot : root ∈ d.roots)
    (hdevice : Path.IsName device) {q : Place}
    (hq : q ∈ passed (t.start (p.join device)) (p.join device).steps) :
    ¬ IsShelf (t.target root) q := by
  rw [passed_join hdevice, List.mem_append, List.mem_singleton] at hq
  rcases hq with hq | rfl
  · exact h.way p hp root hroot q hq
  · rintro ⟨device', name, heq⟩
    have hsame : t.target p ++ [device] = t.target root ++ [device'] ++ [name] := by
      rw [heq, List.append_assoc]
      rfl
    exact h.not_mem_roots hp hroot device' (List.append_inj_left' hsame rfl)

theorem IsFree.keep (h : d.IsFree t) (hapart : d.AreApart t) (hkeeps : t.Keeps t')
    (hfile : ∀ q bytes, t'.at? q = some (.file bytes) → t.at? q = some (.file bytes) ∨
      ∃ root ∈ d.roots, IsShelf (t.target root) q) : d.IsFree t' := by
  intro p hp device hdevice
  have hstart : t'.start (p.join device) = t.start (p.join device) := by
    rw [start, hkeeps.here]
    rfl
  obtain ⟨hdirectory, hfree⟩ := h p hp device hdevice
  refine ⟨hstart ▸ hkeeps.directory hdirectory, fun q hq bytes hat => ?_⟩
  rw [hstart] at hq
  rcases hfile q bytes hat with hold | ⟨root, hroot, hshelf⟩
  · exact hfree q hq bytes hold
  · exact hapart.not_isShelf hp hroot hdevice hq hshelf

/-- Changes to reports alone put no file there. -/
theorem IsFree.confined {names : String → Prop} (h : d.IsFree t) (hapart : d.AreApart t)
    (hconfined : Confined (Workplace (t.target d.reports) names) t t') : d.IsFree t' := by
  refine h.keep hapart hconfined.keeps fun q bytes hat => ?_
  by_cases hq : Workplace (t.target d.reports) names q
  · obtain ⟨device, name, -, -, rfl⟩ := hq
    exact .inr ⟨d.reports, d.reports_mem_roots, device, name, rfl⟩
  · exact .inl ((hconfined.file hq).mp hat)

/-! ## Requests that succeed -/

theorem exists_list (hlimits : FileTree.IsWithinLimits p) (hfree : t.IsFree p)
    (keep : String → Bool) : ∃ ids, list t p keep = .ok ids := by
  unfold list
  rcases listFiles_of_isFree hlimits hfree with hlist | ⟨names, hlist⟩
  · exact ⟨_, by rw [hlist]⟩
  · exact ⟨_, by rw [hlist]⟩

theorem removeAll_ok (hlead : t.LeadsTo p place) (hnodup : names.Nodup)
    (hnames : ∀ name ∈ names, Path.IsName name ∧ FileTree.IsWithinLimits (p.join name) ∧
      ∃ bytes, t.at? (place ++ [name]) = some (.file bytes)) : (removeAll t p names).1 = .ok () := by
  induction names generalizing t with
  | nil => rfl
  | cons name names ih =>
    rw [List.forall_mem_cons] at hnames
    rw [List.nodup_cons] at hnodup
    obtain ⟨⟨hname, hlimits, bytes, hat⟩, hrest⟩ := hnames
    have hkeeps : t.Keeps (t.erase (place ++ [name])) := keeps_erase (by rw [hat]; simp)
    have hremove := removeFile_of_locate (hlead.locate_of_isWithinLimits hname hlimits) hat
    rw [removeAll_cons, hremove]
    refine ih (hlead.mono hkeeps) hnodup.2 fun other hother => ?_
    obtain ⟨hother_name, hother_limits, bytes', hat'⟩ := hrest other hother
    refine ⟨hother_name, hother_limits, bytes', ?_⟩
    have hne : place ++ [other] ≠ place ++ [name] := by
      intro heq
      obtain rfl : other = name := by simpa using heq
      exact hnodup.1 hother
    rw [at?_erase (by simp), if_neg hne]
    exact hat'

theorem not_systemFails_of_ok {α : Type} {answer : Except StoreError α} {a : α}
    (h : answer = .ok a) : ¬ SystemFails answer := by
  rintro ⟨cause, herror, -⟩
  rw [h] at herror
  cases herror

theorem not_systemFails_loadSnapshot (hread : t.readBytes ((d.snapshotsOf device).join id) =
      .error .notFound ∨ ∃ bytes, t.readBytes ((d.snapshotsOf device).join id) = .ok bytes) :
    ¬ SystemFails (d.loadSnapshot t device id) := by
  rintro ⟨cause, hload, hcause⟩
  unfold loadSnapshot readText at hload
  rcases hread with hmissing | ⟨bytes, hbytes⟩
  · simp only [hmissing, bind, Except.bind] at hload
    cases hload
    exact hcause
  · simp only [hbytes, bind, Except.bind] at hload
    cases htext : Text.ofBytes? bytes with
    | none =>
      rw [htext] at hload
      cases hload
      exact hcause rfl
    | some text =>
      rw [htext] at hload
      cases hload

theorem not_systemFails_loadReport (hread : t.readBytes ((d.reportsOf device).join id) =
      .error .notFound ∨ ∃ bytes, t.readBytes ((d.reportsOf device).join id) = .ok bytes) :
    ¬ SystemFails (d.loadReport t device id) := by
  rintro ⟨cause, hload, hcause⟩
  rcases hread with hmissing | ⟨bytes, hbytes⟩
  · unfold loadReport at hload
    simp only [hmissing] at hload
    cases hload
    exact hcause
  · rw [loadReport_of_readBytes hbytes] at hload
    cases hreport : StoredReport.ofBytes? bytes with
    | none =>
      rw [hreport] at hload
      cases hload
      exact hcause
    | some r =>
      rw [hreport] at hload
      cases hload

/-- The directory of a device can be made, and no artifact in it is a directory. -/
theorem exists_made (hp : p ∈ d.roots) (hapart : d.AreApart t)
    (hshelf : ∀ device name, t.at? (t.target p ++ [device, name]) ≠ some .directory)
    (hdevice : Path.IsName device) (hfree : d.IsFree t)
    (hlimits : FileTree.IsWithinLimits (p.join device)) :
    ∃ made, t.makeDirectories (p.join device) = (.ok (), made) ∧
      made.LeadsTo (p.join device) (t.target p ++ [device]) ∧
      ∀ name, made.at? (t.target p ++ [device] ++ [name]) ≠ some .directory := by
  obtain ⟨made, hmake, hlead⟩ := makeDirectories_of_isFree hdevice hlimits (hfree p hp device hdevice)
  rw [target_join hdevice] at hlead
  refine ⟨made, hmake, hlead, fun name => ?_⟩
  have hsame := hapart.at?_makeDirectories hp hp hdevice device name
  rw [hmake] at hsame
  rw [List.append_assoc]
  exact hsame ▸ hshelf device name

theorem isWithinLimits_id (hslash : '/' ∉ r.id.toList)
    (hlimits : FileTree.IsWithinLimits (p.join (unfinishedName r.id))) :
    FileTree.IsWithinLimits (p.join r.id) := by
  refine hlimits.join_mono (isName_id hslash) (isName_unfinishedName hslash) (fun hnul => ?_) ?_
  · rw [toList_unfinishedName]
    exact List.mem_cons_of_mem _ (List.mem_append_left _ hnul)
  · simp only [unfinishedName, String.utf8ByteSize_append]
    omega

theorem saveReport_ok (h : d.Mirrors t m) (hfree : d.IsFree t) (hdevice : Path.IsName r.device)
    (hslash : '/' ∉ r.id.toList)
    (hlimits : FileTree.IsWithinLimits ((d.reportsOf r.device).join (unfinishedName r.id))) :
    (d.saveReport t r).1 = .ok r.id := by
  have hid := isName_id hslash
  have hunfinished := isName_unfinishedName hslash
  have hp : d.reportsOf r.device ≠ "" := Path.join_ne_empty hdevice d.reports
  obtain ⟨made, hmake, hlead, hat⟩ := exists_made d.reports_mem_roots h.apart
    h.reports.at?_ne_directory hdevice hfree (hlimits.of_join hunfinished hp)
  have hwrite := writeFile_of_locate (hlead.locate_of_isWithinLimits hunfinished hlimits)
    (hat (unfinishedName r.id)) (Text.toBytes r.encode)
  have hlead' := hlead.mono (keeps_put_file (hat (unfinishedName r.id)) (Text.toBytes r.encode))
  have hmove := moveFile_of_locate (hlead'.locate_of_isWithinLimits hunfinished hlimits)
    (by rw [at?_put (by simp), if_pos rfl]) (hlead'.locate_of_isWithinLimits hid (isWithinLimits_id hslash hlimits))
    (by
      rw [at?_put (by simp)]
      split
      · rintro ⟨⟩
      · exact hat r.id)
  unfold saveReport
  simp only [reportsOf, hmake, hwrite, hmove]

theorem discardReports_ok (h : d.Mirrors t m) (hfree : d.IsFree t) (hdevice : Path.IsName device)
    (hlimits : FileTree.IsWithinLimits (d.reportsOf device))
    (hkept : ∀ id ∈ (m.of device).reports.keys,
      FileTree.IsWithinLimits ((d.reportsOf device).join id)) :
    (d.discardReports t device).1 = .ok (m.of device).reports.size := by
  obtain ⟨ids, hlist⟩ := exists_list hlimits (hfree _ d.reports_mem_roots device hdevice) isReportName
  have hids := (h.reportIds hdevice).resolve_left (not_systemFails_of_ok hlist)
  have hremove : (removeAll t (d.reportsOf device) (m.of device).reports.keys).1 = .ok () := by
    by_cases hnone : (m.of device).reports.keys = []
    · rw [hnone, removeAll_nil]
    · obtain ⟨id, hid⟩ := List.exists_mem_of_ne_nil _ hnone
      have hlead := h.reports.leadsTo device id (Memory.mem_reports_keys.mp hid)
      refine removeAll_ok hlead ((Catalog.pairwise_keys _).imp ne_of_lt) fun name hname => ?_
      obtain ⟨r, hget⟩ := Catalog.mem_keys.mp hname
      refine ⟨(h.report hget).2, hkept name hname, Text.toBytes r.encode, ?_⟩
      rw [h.reports.at?_name, Memory.reportFiles, hget]
      rfl
  rw [discardReports_eq hids, hremove, ← Catalog.length_keys]
  rfl

/-! ## Stores that the system never lets down -/

/-- A tree holds what a store in memory holds, all of it under paths within the limits, and no file
is in the way of more. -/
structure Serves (d : Directories) (t : FileTree) (m : Memory) : Prop where
  mirrors : d.Mirrors t m
  free : d.IsFree t
  snapshot : ∀ {device id contents}, (m.of device).snapshots.get? id = some contents →
    FileTree.IsWithinLimits ((d.snapshotsOf device).join id)
  report : ∀ {device id r}, (m.of device).reports.get? id = some r →
    FileTree.IsWithinLimits ((d.reportsOf device).join id)

theorem Serves.not_systemFails (h : d.Serves t m) {request : Request} (hr : request.IsAdmitted)
    (hlimits : request.IsWithinLimits d) : ¬ SystemFails (d.store request t).1 := by
  cases request with
  | snapshotIds device =>
    obtain ⟨ids, hids⟩ := exists_list hlimits
      (h.free _ d.snapshots_mem_roots device hr.isName) isSnapshotName
    exact not_systemFails_of_ok hids
  | loadSnapshot device id =>
    refine not_systemFails_loadSnapshot (readBytes_of_isFree hr.2
      (Path.join_ne_empty hr.1.isName _) hlimits (h.free _ d.snapshots_mem_roots device hr.1.isName) ?_)
    rw [target_snapshotsOf hr.1.isName, List.append_assoc]
    exact h.mirrors.snapshots.at?_ne_directory device id
  | reportIds device =>
    obtain ⟨ids, hids⟩ := exists_list hlimits
      (h.free _ d.reports_mem_roots device hr.isName) isReportName
    exact not_systemFails_of_ok hids
  | loadReport device id =>
    refine not_systemFails_loadReport (readBytes_of_isFree hr.2
      (Path.join_ne_empty hr.1.isName _) hlimits (h.free _ d.reports_mem_roots device hr.1.isName) ?_)
    rw [target_reportsOf hr.1.isName, List.append_assoc]
    exact h.mirrors.reports.at?_ne_directory device id
  | saveReport r =>
    exact not_systemFails_of_ok
      (saveReport_ok h.mirrors h.free hr.1.isName (slash_not_mem_id_of_isAdmitted hr) hlimits)
  | discardReports device =>
    refine not_systemFails_of_ok
      (discardReports_ok h.mirrors h.free hr.isName hlimits fun id hid => ?_)
    obtain ⟨r, hget⟩ := Catalog.mem_keys.mp hid
    exact h.report hget

/-- Requests change reports alone. -/
theorem Mirrors.confined_request (h : d.Mirrors t m) {request : Request} (hr : request.IsAdmitted) :
    Confined (Workplace (t.target d.reports) fun _ => True) t (d.store request t).2 := by
  cases request with
  | saveReport r => exact confined_saveReport hr trivial t
  | discardReports device =>
    show Confined _ t (d.discardReports t device).2
    cases hids : d.reportIds t device with
    | error cause =>
      unfold Directories.discardReports
      rw [hids]
      exact .refl _ t
    | ok ids =>
      rw [discardReports_eq hids]
      refine confined_removeAll hr trivial (fun name hname => ?_) t
      have hkeys := (h.reportIds hr.isName).resolve_left (not_systemFails_of_ok hids)
      obtain rfl := Except.ok.inj (hids.symm.trans hkeys)
      obtain ⟨r, hget⟩ := Catalog.mem_keys.mp hname
      exact ⟨(h.report hget).2, .inl (h.report hget).1⟩
  | _ => exact .refl _ t

/-- A request about paths within the limits is answered as from memory, and others can follow. -/
theorem Serves.request (h : d.Serves t m) {request : Request} (hr : request.IsAdmitted)
    (hlimits : request.IsWithinLimits d) :
    (d.store request t).1 = (Memory.store request m).1 ∧
      d.Serves (d.store request t).2 (Memory.store request m).2 := by
  obtain ⟨hanswer, hmirrors⟩ :=
    (h.mirrors.request request hr).resolve_left (h.not_systemFails hr hlimits)
  refine ⟨hanswer, hmirrors, h.free.confined h.mirrors.apart (h.mirrors.confined_request hr),
    fun hget => ?_, fun hget => ?_⟩
  · rw [Memory.snapshots_store] at hget
    exact h.snapshot hget
  · rcases Memory.reports_store hget with hold | ⟨rfl, rfl, rfl⟩
    · exact h.report hold
    · exact isWithinLimits_id (slash_not_mem_id_of_isAdmitted hr) hlimits

theorem addSnapshot_ok (h : d.Mirrors t m) (hfree : d.IsFree t) (hdevice : Path.IsName device)
    (hid : Path.IsName id) (hlimits : FileTree.IsWithinLimits ((d.snapshotsOf device).join id))
    (contents : List String) : (d.addSnapshot t device id contents).1 = .ok () := by
  have hp : d.snapshotsOf device ≠ "" := Path.join_ne_empty hdevice d.snapshots
  obtain ⟨made, hmake, hlead, hat⟩ := exists_made d.snapshots_mem_roots h.apart
    h.snapshots.at?_ne_directory hdevice hfree (hlimits.of_join hid hp)
  have hwrite := writeFile_of_locate (hlead.locate_of_isWithinLimits hid hlimits) (hat id)
    (Text.toBytes (Text.written contents))
  unfold addSnapshot
  simp only [snapshotsOf, hmake, hwrite]

theorem Serves.addSnapshot (h : d.Serves t m) (hdevice : Path.IsName device) (hid : Path.IsName id)
    (hname : isSnapshotName id = true) (hlines : ∀ line ∈ contents, Text.IsLine line)
    (hlimits : FileTree.IsWithinLimits ((d.snapshotsOf device).join id)) :
    (d.addSnapshot t device id contents).1 = .ok () ∧
      d.Serves (d.addSnapshot t device id contents).2 (m.addSnapshot device id contents) := by
  have hadd := addSnapshot_ok h.mirrors h.free hdevice hid hlimits contents
  have hadded := added_of_addSnapshot hdevice hid (Prod.ext hadd rfl)
  refine ⟨hadd, h.mirrors.addSnapshot hdevice hid hname hlines (Prod.ext hadd rfl),
    h.free.keep h.mirrors.apart hadded.keeps fun q bytes hat => ?_, fun hget => ?_, fun hget => ?_⟩
  · rw [hadded.at?_eq] at hat
    split at hat
    · next hq =>
      exact .inr ⟨d.snapshots, d.snapshots_mem_roots, device, id, by rw [hq, List.append_assoc]; rfl⟩
    · exact .inl ((makeDirectories_grows t (d.snapshotsOf device)).file.mp hat)
  · rw [Memory.get?_addSnapshot] at hget
    split at hget
    · next hsame => exact hsame.1 ▸ hsame.2 ▸ hlimits
    · exact h.snapshot hget
  · rw [Memory.reports_addSnapshot] at hget
    exact h.report hget

end Directories
end Conformance
