import Conformance.Proofs.Settings.Inventory
import Conformance.Proofs.Store.Memory
import Conformance.Proofs.Store.Shelves
import Conformance.Proofs.Text.Lines

/-!
# Stores in file trees mirror stores in memory

As long as the system does not fail, a store in a file tree answers every request as a store in
memory does that holds the same, and holds the same again afterwards.
-/
namespace Conformance

/-- Settings with a device of this name have no problem for the sake of the name. -/
def Settings.Accepts (name : String) : Prop :=
  inventoryProblems [] 0 [⟨name, ""⟩] = []

instance (name : String) : Decidable (Settings.Accepts name) :=
  inferInstanceAs (Decidable (Settings.inventoryProblems [] 0 [⟨name, ""⟩] = []))

theorem Settings.Accepts.safe {name : String} (h : Accepts name) : isUnsafe name = false :=
  safe_of_inventoryProblems h ⟨name, ""⟩ (List.mem_singleton_self _)

theorem Settings.Accepts.isName {name : String} (h : Accepts name) : Path.IsName name := by
  have hhead := Directories.head?_ne_of_safe h.safe
  refine ⟨Directories.slash_not_mem_of_safe h.safe, ?_, ?_, ?_⟩
  · rintro rfl
    cases h
  · rintro rfl
    exact hhead rfl
  · rintro rfl
    exact hhead rfl

/-- A request about devices with accepted names, and artifacts with names that files have. -/
def Request.IsAdmitted : Request → Prop
  | .snapshotIds device | .reportIds device | .discardReports device => Settings.Accepts device
  | .loadSnapshot device id | .loadReport device id => Settings.Accepts device ∧ Path.IsName id
  | .saveReport r => Settings.Accepts r.device ∧ ∃ now, r.generatedAt = Stamp.format now

namespace Memory

def snapshotFiles (m : Memory) (device id : String) : Option (List UInt8) :=
  ((m.of device).snapshots.get? id).map fun contents => Text.toBytes (Text.written contents)

def reportFiles (m : Memory) (device id : String) : Option (List UInt8) :=
  ((m.of device).reports.get? id).map fun r => Text.toBytes r.encode

variable {m : Memory} {device id : String}

theorem mem_snapshots_keys : id ∈ (m.of device).snapshots.keys ↔ m.snapshotFiles device id ≠ none := by
  rw [Catalog.mem_keys, snapshotFiles, ne_eq, Option.map_eq_none_iff, ← ne_eq, Option.ne_none_iff_exists']

theorem mem_reports_keys : id ∈ (m.of device).reports.keys ↔ m.reportFiles device id ≠ none := by
  rw [Catalog.mem_keys, reportFiles, ne_eq, Option.map_eq_none_iff, ← ne_eq, Option.ne_none_iff_exists']

theorem snapshotFiles_withReports (m : Memory) (device : String) (reports : Catalog StoredReport) :
    (m.withReports device reports).snapshotFiles = m.snapshotFiles := by
  funext device' id
  rw [snapshotFiles, snapshots_withReports, snapshotFiles]

end Memory

namespace Directories

open FileTree

variable {d : Directories} {t t' : FileTree} {m : Memory} {p : Path} {device id : String}
  {names contents : List String} {r : StoredReport}

/-- A file tree holds what a store in memory holds. -/
structure Mirrors (d : Directories) (t : FileTree) (m : Memory) : Prop where
  apart : d.AreApart t
  snapshots : t.Shelves d.snapshots m.snapshotFiles
  reports : t.Shelves d.reports m.reportFiles
  snapshot : ∀ {device id contents}, (m.of device).snapshots.get? id = some contents →
    isSnapshotName id = true ∧ Path.IsName id ∧ ∀ line ∈ contents, Text.IsLine line
  report : ∀ {device id r}, (m.of device).reports.get? id = some r →
    isReportName id = true ∧ Path.IsName id

theorem systemFails_files {α : Type} {path : String} {cause : FileError} (h : cause ≠ .notText) :
    SystemFails (α := α) (.error (.files path cause)) :=
  ⟨_, rfl, h⟩

/-! ## Reading -/

theorem Mirrors.snapshotIds (h : Mirrors d t m) (hdevice : Path.IsName device) :
    SystemFails (list t (d.snapshotsOf device) isSnapshotName) ∨
      list t (d.snapshotsOf device) isSnapshotName = .ok (m.of device).snapshots.keys := by
  refine h.snapshots.list_eq hdevice (Catalog.pairwise_keys _) (fun _ => Memory.mem_snapshots_keys) ?_
  intro id hid
  obtain ⟨contents, hget⟩ := Catalog.mem_keys.mp hid
  exact (h.snapshot hget).1

theorem Mirrors.reportIds (h : Mirrors d t m) (hdevice : Path.IsName device) :
    SystemFails (d.reportIds t device) ∨
      d.reportIds t device = .ok (m.of device).reports.keys := by
  refine h.reports.list_eq hdevice (Catalog.pairwise_keys _) (fun _ => Memory.mem_reports_keys) ?_
  intro id hid
  obtain ⟨r, hget⟩ := Catalog.mem_keys.mp hid
  exact (h.report hget).1

theorem Mirrors.loadSnapshot (h : Mirrors d t m) (hdevice : Path.IsName device)
    (hid : Path.IsName id) : SystemFails (d.loadSnapshot t device id) ∨
      d.loadSnapshot t device id =
        Memory.found device .snapshot id ((m.of device).snapshots.get? id) := by
  have hcontent : m.snapshotFiles device id =
      (((m.of device).snapshots.get? id).map Text.written).map Text.toBytes := by
    rw [Option.map_map]
    rfl
  unfold Directories.loadSnapshot
  rcases h.snapshots.readText hdevice hid hcontent with ⟨cause, hcause, hread⟩ | hread
  · simp only [snapshotsOf, hread]
    simp only [List.mem_cons, List.not_mem_nil, or_false] at hcause
    rcases hcause with rfl | rfl | rfl <;> exact .inl (systemFails_files (by decide))
  · simp only [snapshotsOf, hread]
    cases hget : (m.of device).snapshots.get? id with
    | none => exact .inr rfl
    | some contents => exact .inr (congrArg Except.ok (Text.lines_written (h.snapshot hget).2.2))

theorem Mirrors.loadReport (h : Mirrors d t m) (hdevice : Path.IsName device)
    (hid : Path.IsName id) : SystemFails (d.loadReport t device id) ∨
      d.loadReport t device id =
        Memory.found device .report id ((m.of device).reports.get? id) := by
  rcases h.reports.readBytes hdevice hid with ⟨cause, hcause, hread⟩ | hread
  · unfold Directories.loadReport
    simp only [reportsOf, hread]
    simp only [List.mem_cons, List.not_mem_nil, or_false] at hcause
    rcases hcause with rfl | rfl | rfl <;> exact .inl (systemFails_files (by decide))
  · right
    rw [Memory.reportFiles] at hread
    cases hget : (m.of device).reports.get? id with
    | none =>
      rw [hget] at hread
      unfold Directories.loadReport
      simp only [reportsOf, hread]
      rfl
    | some r =>
      rw [hget] at hread
      rw [loadReport_of_readBytes hread, StoredReport.ofBytes?_encode]
      rfl

/-! ## Changing -/

theorem snapshots_mem_roots (d : Directories) : d.snapshots ∈ d.roots :=
  List.mem_cons_self

theorem reports_mem_roots (d : Directories) : d.reports ∈ d.roots :=
  List.mem_cons_of_mem _ List.mem_cons_self

theorem append_pair_inj {place : Place} {device' id' : String} :
    place ++ [device', id'] = place ++ [device] ++ [id] ↔ device' = device ∧ id' = id := by
  rw [List.append_assoc, List.append_right_inj]
  simp

/-- A snapshot arrives: the directory of the device is made, and the lines are written. -/
def addSnapshot (d : Directories) (t : FileTree) (device id : String) (contents : List String) :
    Except StoreError Unit × FileTree :=
  match t.makeDirectories (d.snapshotsOf device) with
  | (.error cause, t) => (.error (.files (d.snapshotsOf device) cause), t)
  | (.ok _, t) =>
    match t.writeFile ((d.snapshotsOf device).join id) (Text.toBytes (Text.written contents)) with
    | .error cause => (.error (.files ((d.snapshotsOf device).join id) cause), t)
    | .ok t => (.ok (), t)

structure Added (d : Directories) (t t' : FileTree) (device id : String) (bytes : List UInt8) :
    Prop where
  keeps : t.Keeps t'
  leadsTo : t'.LeadsTo (d.snapshotsOf device) (t.target d.snapshots ++ [device])
  at?_eq : ∀ q, t'.at? q =
    if q = t.target d.snapshots ++ [device] ++ [id] then some (.file bytes)
    else (t.makeDirectories (d.snapshotsOf device)).2.at? q

theorem added_of_addSnapshot (hdevice : Path.IsName device) (hid : Path.IsName id)
    (h : d.addSnapshot t device id contents = (.ok (), t')) :
    Added d t t' device id (Text.toBytes (Text.written contents)) := by
  have hgrows := makeDirectories_grows t (d.snapshotsOf device)
  unfold addSnapshot at h
  split at h
  · cases h
  · next made hmake =>
    rw [hmake] at hgrows
    split at h
    · cases h
    · next written hwrite =>
      obtain rfl := (Prod.mk.inj h).2
      obtain ⟨q, hlocate, hfree, rfl⟩ := writeFile_eq_ok hwrite
      obtain ⟨place, hlead, rfl⟩ :=
        leadsTo_of_locate_join (checked_of_makeDirectories hmake) hid hlocate
      have hkeeps := keeps_put_file hfree (Text.toBytes (Text.written contents))
      have hplace : place = t.target d.snapshots ++ [device] := by
        rw [hlead.eq_target, target_congr hgrows.here, snapshotsOf, target_join hdevice]
      subst hplace
      exact ⟨hgrows.keeps.trans hkeeps, hlead.mono hkeeps,
        fun q => by rw [hmake, at?_put (ne_nil_of_free hfree)]⟩

theorem addSnapshot_or (d : Directories) (t : FileTree) (device id : String)
    (contents : List String) : SystemFails (d.addSnapshot t device id contents).1 ∨
      (d.addSnapshot t device id contents).1 = .ok () := by
  have hmade := makeDirectories_ne_notText t (d.snapshotsOf device)
  unfold addSnapshot
  split
  · next hmake =>
    rw [hmake] at hmade
    exact .inl (systemFails_files fun heq => hmade (congrArg Except.error heq))
  · split
    · next hwrite =>
      exact .inl (systemFails_files fun heq => writeFile_ne_notText _ _ _ (heq ▸ hwrite))
    · exact .inr rfl

theorem Mirrors.addSnapshot (h : Mirrors d t m) (hdevice : Path.IsName device)
    (hid : Path.IsName id) (hname : isSnapshotName id = true)
    (hlines : ∀ line ∈ contents, Text.IsLine line)
    (hadd : d.addSnapshot t device id contents = (.ok (), t')) :
    Mirrors d t' (m.addSnapshot device id contents) := by
  have hadded := added_of_addSnapshot hdevice hid hadd
  have hmade : ∀ root ∈ d.roots, ∀ device' id',
      (t.makeDirectories (d.snapshotsOf device)).2.at? (t.target root ++ [device', id']) =
        t.at? (t.target root ++ [device', id']) := fun root hroot =>
    h.apart.at?_makeDirectories d.snapshots_mem_roots hroot hdevice
  refine ⟨h.apart.congr hadded.keeps.here, ?_, ?_, ?_, ?_⟩
  · refine h.snapshots.put id (Text.toBytes (Text.written contents)) hadded.keeps hadded.leadsTo
      (fun device' id' => ?_) fun device' id' => ?_
    · simp only [hadded.at?_eq, append_pair_inj]
      rw [hmade _ d.snapshots_mem_roots]
    · rw [Memory.snapshotFiles, Memory.get?_addSnapshot]
      split <;> rfl
  · have hfiles : (m.addSnapshot device id contents).reportFiles = m.reportFiles := by
      funext device' id'
      rw [Memory.reportFiles, Memory.reports_addSnapshot, Memory.reportFiles]
    rw [hfiles]
    refine h.reports.keep hadded.keeps fun device' id' => ?_
    have hne := h.apart.ne device id device' id'
    rw [hadded.at?_eq, if_neg (by simpa using hne.symm), hmade _ d.reports_mem_roots]
  · intro device' id' contents' hget
    rw [Memory.get?_addSnapshot] at hget
    split at hget
    · next hsame =>
      obtain rfl := Option.some.inj hget
      exact ⟨hsame.2 ▸ hname, hsame.2 ▸ hid, hlines⟩
    · exact h.snapshot hget
  · intro device' id' r hget
    rw [Memory.reports_addSnapshot] at hget
    exact h.report hget

theorem saveReport_or (d : Directories) (t : FileTree) (r : StoredReport) :
    SystemFails (d.saveReport t r).1 ∨ (d.saveReport t r).1 = .ok r.id := by
  have hmade := makeDirectories_ne_notText t (d.reportsOf r.device)
  unfold saveReport
  simp only
  split
  · next hmake =>
    rw [hmake] at hmade
    exact .inl (systemFails_files fun heq => hmade (congrArg Except.error heq))
  · split
    · next hwrite =>
      exact .inl (systemFails_files fun heq => writeFile_ne_notText _ _ _ (heq ▸ hwrite))
    · split
      · next hmove =>
        exact .inl (systemFails_files fun heq => moveFile_ne_notText _ _ _ (heq ▸ hmove))
      · exact .inr rfl

theorem isReportName_unfinishedName (id : String) : isReportName (unfinishedName id) = false := by
  refine isReportName_of_tmp ?_
  rw [toList_unfinishedName]
  exact (List.suffix_append _ _).trans (List.suffix_cons _ _)

theorem Mirrors.saveReport (h : Mirrors d t m) (hdevice : Path.IsName r.device)
    (hid : Path.IsName r.id) (hsaved : Saved d t t' (t.target d.reports ++ [r.device]) r) :
    Mirrors d t' (m.withReports r.device ((m.of r.device).reports.insert r.id r)) := by
  have hmade : ∀ root ∈ d.roots, ∀ device' id',
      (t.makeDirectories (d.reportsOf r.device)).2.at? (t.target root ++ [device', id']) =
        t.at? (t.target root ++ [device', id']) := fun root hroot =>
    h.apart.at?_makeDirectories d.reports_mem_roots hroot hdevice
  refine ⟨h.apart.congr hsaved.keeps.here, ?_, ?_, ?_, ?_⟩
  · rw [Memory.snapshotFiles_withReports]
    refine h.snapshots.keep hsaved.keeps fun device' id' => ?_
    have hne := fun id => h.apart.ne device' id' r.device id
    rw [hsaved.at?_eq, if_neg (by simpa using hne r.id),
      if_neg (by simpa using hne (unfinishedName r.id)), hmade _ d.snapshots_mem_roots]
  · refine h.reports.put r.id (Text.toBytes r.encode) hsaved.keeps hsaved.leadsTo
      (fun device' id' => ?_) fun device' id' => ?_
    · simp only [hsaved.at?_eq, append_pair_inj, hmade _ d.reports_mem_roots]
      -- Where a report was in the making there was nothing before.
      split
      · rfl
      · split
        · next hsame =>
          cases hget : (m.of r.device).reports.get? (unfinishedName r.id) with
          | none =>
            rw [h.reports.at?_eq, hsame.1, hsame.2, Memory.reportFiles, hget]
            rfl
          | some r' =>
            have hname := (h.report hget).1
            rw [isReportName_unfinishedName] at hname
            cases hname
        · rfl
    · rw [Memory.reportFiles, Memory.get?_withReports, Catalog.get?_insert]
      by_cases hdevice' : device' = r.device
      · by_cases hid' : id' = r.id
        · simp [hdevice', hid']
        · simp [hdevice', hid', Memory.reportFiles]
      · simp [hdevice', Memory.reportFiles]
  · intro device' id' contents' hget
    rw [Memory.snapshots_withReports] at hget
    exact h.snapshot hget
  · intro device' id' r' hget
    rw [Memory.get?_withReports, Catalog.get?_insert] at hget
    split at hget
    · next hsame =>
      split at hget
      · next hid' => exact hid' ▸ ⟨isReportName_id r, hid⟩
      · exact h.report hget
    · exact h.report hget

theorem removeAll_or (t : FileTree) (p : Path) (names : List String) :
    SystemFails (removeAll t p names).1 ∨ (removeAll t p names).1 = .ok () := by
  induction names generalizing t with
  | nil => exact .inr rfl
  | cons name names ih =>
    rw [removeAll_cons]
    split
    · next hremove =>
      exact .inl (systemFails_files fun heq => removeFile_ne_notText _ _ (heq ▸ hremove))
    · exact ih _

theorem Mirrors.discardReports (h : Mirrors d t m) (hlacks : Lacks t t'
      (t.target d.reports ++ [device]) (m.of device).reports.keys) :
    Mirrors d t' (m.withReports device .empty) := by
  refine ⟨h.apart.congr hlacks.keeps.here, ?_, ?_, ?_, ?_⟩
  · rw [Memory.snapshotFiles_withReports]
    refine h.snapshots.keep hlacks.keeps fun device' id' => ?_
    rw [hlacks.at?_eq, if_neg]
    rintro ⟨id, -, heq⟩
    exact h.apart.ne device' id' device id (by simpa using heq)
  · refine h.reports.change hlacks.keeps (fun device' id' => ?_) fun device' id' hcontent => ?_
    · rw [hlacks.at?_eq, Memory.reportFiles, Memory.get?_withReports]
      simp only [append_pair_inj, h.reports.at?_eq]
      by_cases hdevice : device' = device
      · subst hdevice
        rw [if_pos rfl]
        split
        · rfl
        · next hkept =>
          have hnone : ¬ m.reportFiles device' id' ≠ none := by
            rw [← Memory.mem_reports_keys]
            exact fun hmem => hkept ⟨id', hmem, rfl, rfl⟩
          rw [not_not.mp hnone]
          rfl
      · simp [hdevice, Memory.reportFiles]
    · rw [Memory.reportFiles, Memory.get?_withReports] at hcontent
      split at hcontent
      · exact absurd rfl hcontent
      · exact .inl hcontent
  · intro device' id' contents' hget
    rw [Memory.snapshots_withReports] at hget
    exact h.snapshot hget
  · intro device' id' r' hget
    rw [Memory.get?_withReports] at hget
    split at hget
    · cases hget
    · exact h.report hget

theorem Mirrors.lacks (h : Mirrors d t m) {names : List String}
    (hnames : ∀ name ∈ names, name ∈ (m.of device).reports.keys)
    (hremove : removeAll t (d.reportsOf device) names = (.ok (), t')) :
    Lacks t t' (t.target d.reports ++ [device]) names := by
  cases names with
  | nil =>
    rw [removeAll_nil] at hremove
    obtain rfl := (Prod.mk.inj hremove).2
    exact .refl t _
  | cons name names =>
    have hcontent := Memory.mem_reports_keys.mp (hnames name List.mem_cons_self)
    refine removeAll_lacks (h.reports.leadsTo device name hcontent) (fun name hname => ?_) hremove
    obtain ⟨r, hget⟩ := Catalog.mem_keys.mp (hnames name hname)
    exact (h.report hget).2

theorem Mirrors.discard (h : Mirrors d t m) (hdevice : Path.IsName device) :
    SystemFails (d.discardReports t device).1 ∨
      d.discardReports t device = (.ok (m.of device).reports.size, (d.discardReports t device).2) ∧
        Mirrors d (d.discardReports t device).2 (m.withReports device .empty) := by
  rcases h.reportIds hdevice with ⟨cause, hfail, hcause⟩ | hids
  · refine .inl ⟨cause, ?_, hcause⟩
    unfold Directories.discardReports
    rw [hfail]
  · rw [discardReports_eq hids]
    rcases removeAll_or t (d.reportsOf device) (m.of device).reports.keys with
      ⟨cause, hfail, hcause⟩ | hdone
    · exact .inl ⟨cause, by rw [hfail]; rfl, hcause⟩
    · refine .inr ⟨by rw [hdone, Catalog.length_keys]; rfl, h.discardReports ?_⟩
      exact h.lacks (fun _ => id) (Prod.ext hdone rfl)

/-- What is kept in memory does not depend on whether a device without reports is known. -/
theorem Mirrors.of_withReports_empty (h : Mirrors d t (m.withReports device .empty))
    (hreports : (m.of device).reports = .empty) : Mirrors d t m := by
  have hget : ∀ device' id, ((m.withReports device .empty).of device').reports.get? id =
      (m.of device').reports.get? id := by
    intro device' id
    rw [Memory.get?_withReports]
    split
    · next heq => rw [heq, hreports]
    · rfl
  have hfiles : (m.withReports device .empty).reportFiles = m.reportFiles := by
    funext device' id
    rw [Memory.reportFiles, hget, Memory.reportFiles]
  refine ⟨h.apart, ?_, hfiles ▸ h.reports, fun hgot => ?_, fun hgot => ?_⟩
  · rw [← Memory.snapshotFiles_withReports m device .empty]
    exact h.snapshots
  · exact h.snapshot (by rwa [Memory.snapshots_withReports])
  · exact h.report (by rwa [hget])

/-! ## Requests -/

/-- Requests are answered from a file tree as from memory, unless the system fails. -/
theorem Mirrors.request (h : Mirrors d t m) (r : Request) (hr : r.IsAdmitted) :
    SystemFails (d.store r t).1 ∨
      (d.store r t).1 = (Memory.store r m).1 ∧ Mirrors d (d.store r t).2 (Memory.store r m).2 := by
  cases r with
  | snapshotIds device => exact (h.snapshotIds hr.isName).imp_right fun heq => ⟨heq, h⟩
  | loadSnapshot device id => exact (h.loadSnapshot hr.1.isName hr.2).imp_right fun heq => ⟨heq, h⟩
  | reportIds device => exact (h.reportIds hr.isName).imp_right fun heq => ⟨heq, h⟩
  | loadReport device id => exact (h.loadReport hr.1.isName hr.2).imp_right fun heq => ⟨heq, h⟩
  | saveReport r =>
    obtain ⟨hdevice, now, hstamp⟩ := hr
    refine (saveReport_or d t r).imp_right fun hsaved => ⟨hsaved, ?_⟩
    have hslash : '/' ∉ r.id.toList :=
      slash_not_mem_id hdevice.isName.slash_not_mem
        (hstamp ▸ Stamp.not_mem_format (by decide) (by decide) now)
    obtain ⟨place, hsave⟩ := saved_of_saveReport hslash (Prod.ext hsaved rfl)
    have hplace : place = t.target d.reports ++ [r.device] := by
      rw [hsave.leadsTo.eq_target, target_congr hsave.keeps.here, reportsOf,
        target_join hdevice.isName]
    subst hplace
    exact h.saveReport hdevice.isName (isName_id hslash) hsave
  | discardReports device =>
    refine (h.discard hr.isName).imp_right ?_
    rintro ⟨hanswer, hmirrors⟩
    have hsize : (d.store (.discardReports device) t).1 = .ok (m.of device).reports.size :=
      congrArg Prod.fst hanswer
    rw [hsize]
    cases hknown : m.contains device with
    | true =>
      have hmemory : Memory.store (.discardReports device) m =
          (.ok (m.of device).reports.size, m.withReports device .empty) := if_pos hknown
      rw [hmemory]
      exact ⟨rfl, hmirrors⟩
    | false =>
      have hempty := Memory.reports_of_not_contains hknown
      have hmemory : Memory.store (.discardReports device) m = (.ok (0 : Nat), m) :=
        if_neg (by simp [hknown])
      rw [hmemory, hempty]
      exact ⟨rfl, hmirrors.of_withReports_empty hempty⟩

end Directories
end Conformance
