import Conformance.Proofs.Json.Ending
import Conformance.Proofs.Store.Files

/-!
# Report files

A report is read from its file as it was written. A file that holds a report in part, or more than
a report, is corrupt.
-/
namespace Conformance

namespace StoredReport

variable {r : StoredReport} {bytes : List UInt8}

theorem isBraced_encode (r : StoredReport) : Json.IsBraced (Text.toBytes r.encode) := by
  obtain ⟨body, hbody⟩ : ∃ body, Json.write 0 r.toJson = '\x7b' :: (body ++ ['\x7d']) := ⟨_, rfl⟩
  rw [encode, Json.print, Json.toBytes_ofList, hbody]
  exact ⟨Json.bytesOf body, by rw [Json.bytesOf_cons, Json.bytesOf_append]; rfl⟩

theorem toBytes_encode_ne_nil (r : StoredReport) : Text.toBytes r.encode ≠ [] := by
  obtain ⟨body, hbody⟩ := r.isBraced_encode
  rw [hbody]
  exact List.cons_ne_nil _ _

theorem ofBytes?_of_isPrefix (hpart : bytes <+: Text.toBytes r.encode)
    (hne : bytes ≠ Text.toBytes r.encode) : ofBytes? bytes = none := by
  have hparse := Json.parse?_of_isPrefix r.isBraced_encode (Json.parse?_print r.isWritable_toJson)
    hpart hne
  rw [ofBytes?, hparse, Option.bind_none]

theorem ofBytes?_append (r : StoredReport) (extra : List UInt8) :
    ofBytes? (Text.toBytes r.encode ++ extra) =
      if extra.all Json.isBlankByte then some r else none := by
  rw [ofBytes?, Json.parse?_append r.isBraced_encode (Json.parse?_print r.isWritable_toJson)]
  split
  · rw [Option.bind_some, ofJson?_toJson]
  · rfl

end StoredReport

namespace Directories

variable {d : Directories} {t t' : FileTree} {device id : String} {r : StoredReport}
  {bytes : List UInt8}

def holding (bytes : List UInt8) : FileTree where
  entries := [(["reports"], .directory), (["reports", "sw1"], .directory),
    (["reports", "sw1", "sw1_deviation_2024-05-01_1200.json"], .file bytes)]
  here := []

theorem readBytes_holding (bytes : List UInt8) : (holding bytes).readBytes
    ((reportsOf ⟨"snapshots", "reports"⟩ "sw1").join "sw1_deviation_2024-05-01_1200.json") =
      .ok bytes := by
  rfl

/-- A report whose strings need escapes, and whose status its lists do not bear out. -/
def intricate : StoredReport :=
  ⟨"sw1", "2024-05-01_1200", "quote \" backslash \\ tab \t nul \x00 clef 𝄞", .els,
    ⟨["set a\n"], ["", "\u2028"], .clean⟩⟩

/-- A report is read as it was written: from its text, from its bytes and from the file that they
were written to. -/
theorem loadReport_of_written (d : Directories) (r : StoredReport) :
    StoredReport.decode? r.encode = some r ∧
    StoredReport.ofBytes? (Text.toBytes r.encode) = some r ∧
    ∀ (t t' : FileTree) (device id : String),
      t.writeFile ((d.reportsOf device).join id) (Text.toBytes r.encode) = .ok t' →
      d.loadReport t' device id = .ok r := by
  refine ⟨r.ofBytes?_encode, r.ofBytes?_encode, ?_⟩
  intro t t' device id hwrite
  obtain ⟨q, hlocate, hfree, rfl⟩ := FileTree.writeFile_eq_ok hwrite
  have hkeeps := FileTree.keeps_put_file hfree (Text.toBytes r.encode)
  apply loadReport_of_file (FileTree.locate_mono hkeeps hlocate)
  simp [FileTree.at?_put (FileTree.ne_nil_of_free hfree)]

/-- Any strings are read back, and a status that the lists do not bear out. -/
theorem loadReport_of_written_intricate :
    ∃ t', (holding []).writeFile
        ((reportsOf ⟨"snapshots", "reports"⟩ "sw1").join "sw1_deviation_2024-05-01_1200.json")
        (Text.toBytes intricate.encode) = .ok t' ∧
      loadReport ⟨"snapshots", "reports"⟩ t' "sw1" "sw1_deviation_2024-05-01_1200.json" =
        .ok intricate :=
  have hwrite : (holding []).writeFile
      ((reportsOf ⟨"snapshots", "reports"⟩ "sw1").join "sw1_deviation_2024-05-01_1200.json")
      (Text.toBytes intricate.encode) =
        .ok ((holding []).put ["reports", "sw1", "sw1_deviation_2024-05-01_1200.json"]
          (.file (Text.toBytes intricate.encode))) := by
    rfl
  ⟨_, hwrite, (loadReport_of_written ⟨"snapshots", "reports"⟩ intricate).2.2 _ _ _ _ hwrite⟩

/-- A file that holds the bytes of a report in part, or followed by anything but blanks, is
corrupt. -/
theorem loadReport_of_damaged (d : Directories) (t : FileTree) (device id : String)
    (r : StoredReport) (bytes : List UInt8)
    (hread : t.readBytes ((d.reportsOf device).join id) = .ok bytes) :
    (bytes <+: Text.toBytes r.encode → bytes ≠ Text.toBytes r.encode →
      d.loadReport t device id = .error (.corrupt id)) ∧
    (∀ extra, bytes = Text.toBytes r.encode ++ extra →
      d.loadReport t device id =
        if extra.all Json.isBlankByte then .ok r else .error (.corrupt id)) := by
  rw [loadReport_of_readBytes hread]
  constructor
  · intro hpart hne
    rw [StoredReport.ofBytes?_of_isPrefix hpart hne, Option.elim_none]
  · rintro extra rfl
    rw [StoredReport.ofBytes?_append]
    by_cases hblank : extra.all Json.isBlankByte = true
    · simp [hblank]
    · simp [hblank]

/-- The last byte is missing, or is there twice. -/
theorem loadReport_of_damaged_intricate :
    loadReport ⟨"snapshots", "reports"⟩ (holding (Text.toBytes intricate.encode).dropLast) "sw1"
        "sw1_deviation_2024-05-01_1200.json" =
      .error (.corrupt "sw1_deviation_2024-05-01_1200.json") ∧
    loadReport ⟨"snapshots", "reports"⟩ (holding (Text.toBytes intricate.encode ++ [0x7D])) "sw1"
        "sw1_deviation_2024-05-01_1200.json" =
      .error (.corrupt "sw1_deviation_2024-05-01_1200.json") := by
  have hne : (Text.toBytes intricate.encode).dropLast ≠ Text.toBytes intricate.encode := by
    intro heq
    have hlength := congrArg List.length heq
    have hpos := List.length_pos_of_ne_nil intricate.toBytes_encode_ne_nil
    rw [List.length_dropLast] at hlength
    omega
  constructor
  · exact (loadReport_of_damaged ⟨"snapshots", "reports"⟩ _ _ _ intricate _
      (readBytes_holding _)).1 (List.dropLast_prefix _) hne
  · exact (loadReport_of_damaged ⟨"snapshots", "reports"⟩ _ _ _ intricate _
      (readBytes_holding _)).2 [0x7D] rfl

end Directories
end Conformance
