import Conformance.Proofs.Files.Absence
import Conformance.Proofs.Files.Overlong
import Conformance.Proofs.Store.Files

/-!
# Failing requests to stores in file trees

A report that cannot be saved leaves all reports as they were: what was written of it is under a
name that is not a report's. Where reports cannot all be removed, the first of them are gone.
-/
namespace Conformance

namespace Path

variable {p : Path} {s : List Char}

theorem suffix_join (base p : Path) : p.toList <:+ (join base p).toList := by
  rw [join]
  split
  · exact List.suffix_rfl
  · split
    · exact String.toList_append ▸ List.suffix_append _ _
    · exact String.toList_append ▸ List.suffix_append _ _

theorem endsInSlash_of_suffix (hslash : '/' ∉ s) (hne : s ≠ []) (h : s <:+ p.toList) :
    p.endsInSlash = false := by
  obtain ⟨front, hp⟩ := h
  have hlast : s.getLast hne ≠ '/' := fun heq => hslash (heq ▸ List.getLast_mem hne)
  rw [endsInSlash, ← hp, List.getLast?_append_of_ne_nil _ hne, List.getLast?_eq_some_getLast hne]
  simpa using hlast

/-- The last step of a path that ends in a few characters other than slashes ends in them too. -/
theorem exists_last_step (hslash : '/' ∉ s) (hlength : 2 < s.length) (h : s <:+ p.toList) :
    ∃ before name, p.steps = before ++ [name] ∧ IsName name ∧ s <:+ name.toList := by
  have hname : ∀ rest : List Char, '/' ∉ rest → s <:+ rest → IsName (String.ofList rest) ∧
      ((Text.split '/' rest).filter (!·.isEmpty)).map String.ofList = [String.ofList rest] := by
    intro rest hrest hsuffix
    have hlong : 2 < rest.length := lt_of_lt_of_le hlength hsuffix.length_le
    have hne : rest ≠ [] := List.ne_nil_of_length_pos (by omega)
    refine ⟨Directories.isName_of_length (by simpa using hrest) (by simpa using hlong), ?_⟩
    rw [Text.split_of_not_mem hrest]
    simp [hne]
  obtain ⟨front, hp⟩ := h
  by_cases hmem : '/' ∈ front
  · -- The last step is what follows the last slash.
    obtain ⟨after, before, hfront, hafter⟩ := List.eq_append_cons_of_mem (List.mem_reverse.mpr hmem)
    have hp' : p.toList = before.reverse ++ '/' :: (after.reverse ++ s) := by
      rw [← hp, ← List.reverse_reverse front, hfront]
      simp
    have hrest : '/' ∉ after.reverse ++ s := by simp [hafter, hslash]
    obtain ⟨hisName, hsplit⟩ := hname _ hrest (List.suffix_append _ _)
    refine ⟨_, _, (steps_of_toList hp').trans (congrArg _ hsplit), hisName, ?_⟩
    rw [String.toList_ofList]
    exact List.suffix_append _ _
  · have hrest : '/' ∉ p.toList := by
      rw [← hp, List.mem_append, not_or]
      exact ⟨hmem, hslash⟩
    have hsuffix : s <:+ p.toList := ⟨front, hp⟩
    obtain ⟨hisName, hsplit⟩ := hname _ hrest hsuffix
    rw [String.ofList_toList] at hisName hsplit
    exact ⟨[], p, hsplit, hisName, hsuffix⟩

end Path

namespace Directories

variable {d : Directories} {t t' t'' : FileTree} {p : Path} {place q : Place} {device : String}
  {ids names : List String} {r : StoredReport} {cause : StoreError} {k : Nat}

/-! ## Saving -/

/-- A change that adds no file, and removes no directory and no report. -/
structure KeepsReports (t t' : FileTree) : Prop where
  keeps : t.Keeps t'
  old : ∀ q bytes, t'.at? q = some (.file bytes) → t.at? q = some (.file bytes)
  report : ∀ q name bytes, isReportName name = true →
    t.at? (q ++ [name]) = some (.file bytes) → t'.at? (q ++ [name]) = some (.file bytes)

theorem KeepsReports.refl (t : FileTree) : KeepsReports t t :=
  ⟨.refl t, fun _ _ => id, fun _ _ _ _ => id⟩

theorem KeepsReports.of_grows (h : t.Grows t') : KeepsReports t t' :=
  ⟨h.keeps, fun _ _ => h.file.mp, fun _ _ _ _ => h.file.mpr⟩

theorem isReportName_of_tmp {name : String} (h : ".tmp".toList <:+ name.toList) :
    isReportName name = false := by
  rw [isReportName, Bool.and_eq_false_iff]
  refine .inr (Bool.eq_false_iff.mpr fun hjson => ?_)
  rw [List.isSuffixOf_iff_suffix] at hjson
  have htmp : ".tmp".toList <:+ ".json".toList :=
    List.suffix_of_suffix_length_le h hjson (by decide)
  exact absurd htmp (by decide)

theorem exists_place_of_unfinished {directory : Path} {id : String}
    (h : t.locate (directory.join (unfinishedName id)) = .ok q) :
    ∃ place name, q = place ++ [name] ∧ isReportName name = false := by
  have hsuffix : ".tmp".toList <:+ (directory.join (unfinishedName id)).toList := by
    refine List.IsSuffix.trans ?_ (Path.suffix_join _ _)
    rw [toList_unfinishedName]
    exact (List.suffix_append _ _).trans (List.suffix_cons _ _)
  have hslash : '/' ∉ ".tmp".toList := by decide
  obtain ⟨before, name, hsteps, hname, hend⟩ := Path.exists_last_step hslash (by decide) hsuffix
  rw [FileTree.locate_eq, FileTree.way, Path.endsInSlash_of_suffix hslash (by decide) hsuffix,
    hsteps, if_neg Bool.false_ne_true, List.append_nil] at h
  obtain ⟨-, -, hwalk⟩ := Except.bind_eq_ok.mp h
  obtain ⟨place, -, hlast⟩ := FileTree.walk_append.mp hwalk
  exact ⟨place, name, ((FileTree.walk_name hname).mp hlast).2.2, isReportName_of_tmp hend⟩

/-- A file that is written under no report's name and removed again. -/
theorem KeepsReports.of_erase_put (hfree : t.at? q ≠ some .directory)
    (hname : ∃ place name, q = place ++ [name] ∧ isReportName name = false) (bytes : List UInt8) :
    KeepsReports t ((t.put q (.file bytes)).erase q) := by
  have hne := FileTree.ne_nil_of_free hfree
  have hat : ∀ q', ((t.put q (.file bytes)).erase q).at? q' = if q' = q then none else t.at? q' := by
    intro q'
    rw [FileTree.at?_erase hne, FileTree.at?_put hne]
    split <;> rfl
  refine ⟨(FileTree.keeps_put_file hfree bytes).trans (FileTree.keeps_erase ?_), ?_, ?_⟩
  · rw [FileTree.at?_put hne, if_pos rfl]
    simp
  · intro q' bytes' h
    rw [hat] at h
    split at h
    · cases h
    · exact h
  · intro place name bytes' hreport h
    rw [hat, if_neg]
    · exact h
    · rintro rfl
      obtain ⟨place', name', heq, hnot⟩ := hname
      obtain rfl := (List.cons.inj (List.append_inj_right' heq rfl)).1
      rw [hreport] at hnot
      cases hnot

theorem KeepsReports.trans (h : KeepsReports t t') (h' : KeepsReports t' t'') :
    KeepsReports t t'' where
  keeps := h.keeps.trans h'.keeps
  old q bytes hat := h.old q bytes (h'.old q bytes hat)
  report q name bytes hname hat := h'.report q name bytes hname (h.report q name bytes hname hat)

theorem removeFile_of_writeFile {bytes : List UInt8} (h : t.writeFile p bytes = .ok t') :
    ∃ q, t.locate p = .ok q ∧ t.at? q ≠ some .directory ∧
      (t'.removeFile p).toOption.getD t' = (t.put q (.file bytes)).erase q := by
  obtain ⟨q, hlocate, hfree, rfl⟩ := FileTree.writeFile_eq_ok h
  have hat : (t.put q (.file bytes)).at? q = some (.file bytes) := by
    rw [FileTree.at?_put (FileTree.ne_nil_of_free hfree), if_pos rfl]
  have hlocate' := FileTree.locate_mono (FileTree.keeps_put_file hfree bytes) hlocate
  have hremove : (t.put q (.file bytes)).removeFile p = .ok ((t.put q (.file bytes)).erase q) :=
    Except.bind_eq_ok.mpr ⟨_, FileTree.open?_eq_ok.mpr ⟨hlocate', hat⟩, rfl⟩
  exact ⟨q, hlocate, hfree, by rw [hremove]; rfl⟩

/-- A saving that fails leaves directories behind, and removes what it has written. -/
theorem saveReport_eq_error (h : d.saveReport t r = (.error cause, t')) :
    t' = (t.makeDirectories (d.reportsOf r.device)).2 ∨
      ∃ written, (t.makeDirectories (d.reportsOf r.device)).2.writeFile
          ((d.reportsOf r.device).join (unfinishedName r.id)) (Text.toBytes r.encode) = .ok written ∧
        t' = (written.removeFile
          ((d.reportsOf r.device).join (unfinishedName r.id))).toOption.getD written := by
  unfold saveReport at h
  simp only at h
  split at h
  · next hmake =>
    rw [hmake]
    exact .inl (Prod.mk.inj h).2.symm
  · next made hmake =>
    rw [hmake]
    split at h
    · exact .inl (Prod.mk.inj h).2.symm
    · next written hwrite =>
      split at h
      · exact .inr ⟨written, hwrite, (Prod.mk.inj h).2.symm⟩
      · cases h

theorem keepsReports_of_saveReport (h : d.saveReport t r = (.error cause, t')) :
    KeepsReports t t' := by
  have hgrows := FileTree.makeDirectories_grows t (d.reportsOf r.device)
  rcases saveReport_eq_error h with rfl | ⟨written, hwrite, rfl⟩
  · exact .of_grows hgrows
  · obtain ⟨q, hlocate, hfree, hremove⟩ := removeFile_of_writeFile hwrite
    rw [hremove]
    exact (KeepsReports.of_grows hgrows).trans
      (.of_erase_put hfree (exists_place_of_unfinished hlocate) _)

theorem saveReport_of_isOverlongIn (h : t.IsOverlongIn (d.reportsOf r.device) q)
    (hq : t.at? q = none) :
    d.saveReport t r =
      (.error (.files (d.reportsOf r.device) .nameTooLong), t.put q .directory) := by
  unfold saveReport
  simp only [h.makeDirectories_of_missing hq]

/-- Without that directory there are no reports; with it they cannot be listed. -/
theorem reportIds_of_isOverlongIn (h : t.IsOverlongIn (d.reportsOf device) q)
    (hq : t.at? q = none) :
    d.reportIds t device = .ok [] ∧
      d.reportIds (t.put q .directory) device =
        .error (.files (d.reportsOf device) .nameTooLong) := by
  have hfree : q ≠ [] := by
    rintro rfl
    cases hq
  have hmade : (t.put q .directory).at? q = some .directory := by
    rw [FileTree.at?_put hfree, if_pos rfl]
  constructor
  · rw [reportIds, list, h.listFiles_of_missing hq]
  · rw [reportIds, list, (h.put hq).listFiles_of_directory hmade]

/-! ## Discarding -/

/-- However far a removal comes, the names before that point are gone and no others. -/
theorem removeAll_take (hlead : t.LeadsTo p place) (hnames : ∀ name ∈ names, Path.IsName name) :
    ∃ k, Lacks t (removeAll t p names).2 place (names.take k) := by
  induction names generalizing t with
  | nil => exact ⟨0, .refl t place⟩
  | cons name names ih =>
    rw [removeAll_cons]
    split
    · exact ⟨0, .refl t place⟩
    · next removed hremove =>
      rw [List.forall_mem_cons] at hnames
      have hfirst : removeAll t p [name] = (.ok (), removed) := by
        rw [removeAll_cons, hremove]
        rfl
      have hlacks := removeAll_lacks hlead (List.forall_mem_singleton.mpr hnames.1) hfirst
      obtain ⟨k, hrest⟩ := ih (hlead.mono hlacks.keeps) hnames.2
      refine ⟨k + 1, hlacks.keeps.trans hrest.keeps, ?_⟩
      intro q
      rw [hrest.at?_eq, hlacks.at?_eq, List.take_succ_cons]
      by_cases hq : q = place ++ [name]
      · simp [hq]
      · simp [hq]

/-- The first reports of a device are gone, and the others are as they were. -/
structure LosesFirst (d : Directories) (t t' : FileTree) (device : String) (k : Nat) : Prop where
  ids : d.reportIds t' device = (d.reportIds t device).map (List.drop k)
  content : ∀ ids : List String, d.reportIds t device = .ok ids → ∀ id ∈ ids.drop k,
    t'.readBytes ((d.reportsOf device).join id) = t.readBytes ((d.reportsOf device).join id)

theorem LosesFirst.refl (d : Directories) (t : FileTree) (device : String) :
    LosesFirst d t t device 0 where
  ids := by cases d.reportIds t device <;> rfl
  content _ _ _ _ := rfl

theorem readBytes_eq (hlead : t.LeadsTo p place) (hkeeps : t.Keeps t') {name : String}
    (hname : Path.IsName name) {bytes : List UInt8}
    (hat : t.at? (place ++ [name]) = some (.file bytes))
    (hat' : t'.at? (place ++ [name]) = some (.file bytes)) :
    t'.readBytes (p.join name) = t.readBytes (p.join name) := by
  have hlocate : t'.locate (p.join name) = t.locate (p.join name) := by
    rw [(hlead.mono hkeeps).locate_join hname, hlead.locate_join hname]
  rw [FileTree.readBytes, FileTree.readBytes, FileTree.open?, FileTree.open?, hlocate]
  cases hq : t.locate (p.join name) with
  | error cause => rfl
  | ok q =>
    obtain rfl := hlead.place_of_locate hname hq
    simp only [bind, Except.bind, hat, hat']

theorem mem_drop_iff {names : List String} (h : names.Nodup) {name : String} :
    name ∈ names.drop k ↔ name ∈ names ∧ name ∉ names.take k := by
  have hsplit : name ∈ names ↔ name ∈ names.take k ∨ name ∈ names.drop k := by
    rw [← List.mem_append, List.take_append_drop]
  have hdisjoint := List.disjoint_take_drop h (le_refl k)
  rw [hsplit]
  constructor
  · intro hdrop
    exact ⟨.inr hdrop, fun htake => hdisjoint htake hdrop⟩
  · rintro ⟨htake | hdrop, hnot⟩
    · exact absurd htake hnot
    · exact hdrop

theorem losesFirst_of_leadsTo (hsound : t.IsSound) (hlead : t.LeadsTo (d.reportsOf device) place)
    (hids : d.reportIds t device = .ok ids) (hlacks : Lacks t t' place (ids.take k))
    (hkept : KeepsReports t' t'') : LosesFirst d t t'' device k := by
  have hkeeps := hlacks.keeps.trans hkept.keeps
  have hlist : d.reportIds t device = .ok ((t.filesAt place).filter isReportName) :=
    list_of_leadsTo hlead
  have hlist' : d.reportIds t'' device = .ok ((t''.filesAt place).filter isReportName) :=
    list_of_leadsTo (hlead.mono hkeeps)
  obtain rfl := Except.ok.inj (hlist.symm.trans hids)
  have hascending := (t.pairwise_filesAt place).filter isReportName
  have hmem : ∀ id, id ∈ ((t.filesAt place).filter isReportName).drop k ↔
      isReportName id = true ∧ ∃ bytes, t'.at? (place ++ [id]) = some (.file bytes) := by
    intro id
    rw [mem_drop_iff (nodup_of_ascending hascending), List.mem_filter, FileTree.mem_filesAt]
    simp only [hlacks.file, exists_and_right]
    constructor
    · rintro ⟨⟨hat, hname⟩, hnot⟩
      exact ⟨hname, hat, fun gone hgone heq =>
        hnot ((List.cons.inj (List.append_cancel_left heq)).1 ▸ hgone)⟩
    · rintro ⟨hname, hat, hother⟩
      exact ⟨⟨hat, hname⟩, fun hgone => hother id hgone rfl⟩
  refine ⟨?_, ?_⟩
  · rw [hlist', hids]
    apply congrArg Except.ok
    refine eq_of_ascending ((t''.pairwise_filesAt place).filter _) (hascending.drop) fun id => ?_
    rw [hmem, List.mem_filter, FileTree.mem_filesAt, and_comm]
    refine and_congr_right fun hname => exists_congr fun bytes => ?_
    exact ⟨hkept.old _ _, hkept.report _ _ _ hname⟩
  · intro ids' hids' id hid
    obtain rfl := Except.ok.inj (hids.symm.trans hids')
    obtain ⟨hname, bytes, hat⟩ := (hmem id).mp hid
    have hthen := ((hlacks.file _ _).mp hat).1
    exact readBytes_eq hlead hkeeps (hsound.isName hthen) hthen (hkept.report _ _ _ hname hat)

theorem losesFirst_of_notFound (hsound : t.IsSound)
    (hplain : FileTree.IsPlainWay (Path.steps (d.reportsOf device)))
    (hmissing : t.listFiles (d.reportsOf device) = .error .notFound) (hkept : KeepsReports t t') :
    LosesFirst d t t' device 0 := by
  have hnone : d.reportIds t device = .ok [] := by
    rw [reportIds, list, hmissing]
  refine ⟨?_, ?_⟩
  · rw [hnone, reportIds, list]
    rcases hsound.listFiles_of_notFound hkept.keeps hplain hkept.old hmissing with h | h
    · rw [h]
      rfl
    · rw [h]
      rfl
  · intro ids hids id hid
    obtain rfl := Except.ok.inj (hnone.symm.trans hids)
    cases hid

/-- Before reports are discarded, their directory is there or they are none. -/
theorem leadsTo_or_notFound (hids : d.reportIds t device = .ok ids) :
    (∃ place, t.LeadsTo (d.reportsOf device) place) ∨
      t.listFiles (d.reportsOf device) = .error .notFound ∧ ids = [] := by
  rw [reportIds, list] at hids
  split at hids
  · next hlist =>
    obtain ⟨place, hlead, -⟩ := FileTree.leadsTo_of_listFiles hlist
    exact .inl ⟨place, hlead⟩
  · next hlist => exact .inr ⟨hlist, (Except.ok.inj hids).symm⟩
  · cases hids

theorem discardReports_eq (hids : d.reportIds t device = .ok ids) :
    d.discardReports t device =
      ((removeAll t (d.reportsOf device) ids).1.map fun _ => ids.length,
        (removeAll t (d.reportsOf device) ids).2) := by
  unfold discardReports
  split
  · next h =>
    rw [hids] at h
    cases h
  · next h =>
    rw [hids] at h
    obtain rfl := Except.ok.inj h
    rfl

theorem discard_snd (force : Bool) (hids : d.reportIds t device = .ok ids) :
    (Auditor.discard d.store device force t).2 =
      if force then (removeAll t (d.reportsOf device) ids).2 else t := by
  cases force with
  | false => rfl
  | true =>
    have hrun : Auditor.discard d.store device true t = d.discardReports t device := rfl
    rw [hrun, discardReports_eq hids, if_pos rfl]

/-- However far a discarding comes and whatever fails after it, no reports are gone but the first. -/
theorem losesFirst_of_discard {force : Bool} (hsound : t.IsSound)
    (hroute : FileTree.IsPlainWay (Path.steps (d.reportsOf device)) ∨
      t.isDirectory (d.reportsOf device) = true)
    (hids : d.reportIds t device = .ok ids)
    (hkept : KeepsReports (Auditor.discard d.store device force t).2 t') :
    ∃ k, LosesFirst d t t' device k ∧ (k ≠ 0 → force = true) := by
  rw [discard_snd force hids] at hkept
  rcases leadsTo_or_notFound hids with ⟨place, hlead⟩ | ⟨hmissing, rfl⟩
  · cases force with
    | false =>
      have hlacks : Lacks t t place (ids.take 0) := .refl t place
      exact ⟨0, losesFirst_of_leadsTo hsound hlead hids hlacks hkept, fun hne => absurd rfl hne⟩
    | true =>
      obtain ⟨k, hlacks⟩ := removeAll_take hlead fun name hname =>
        isName_of_mem_list hsound hids hname
      exact ⟨k, losesFirst_of_leadsTo hsound hlead hids hlacks hkept, fun _ => rfl⟩
  · have hplain : FileTree.IsPlainWay (Path.steps (d.reportsOf device)) := by
      rcases hroute with hplain | hdirectory
      · exact hplain
      · obtain ⟨place, hlead⟩ := FileTree.leadsTo_of_isDirectory hdirectory
        rw [FileTree.listFiles_of_leadsTo hlead] at hmissing
        cases hmissing
    have hkept' : KeepsReports t t' := by
      cases force with
      | false => exact hkept
      | true =>
        rw [if_pos rfl, removeAll_nil] at hkept
        exact hkept
    exact ⟨0, losesFirst_of_notFound hsound hplain hmissing hkept', fun hne => absurd rfl hne⟩

end Directories
end Conformance
