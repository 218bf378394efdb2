import Conformance.Proofs.Json.RoundTrip
import Conformance.Proofs.Text.Bytes
import Conformance.Store.StoredReport

/-!
# Stored reports as text

A report is found again in the JSON that it is kept as.
-/
namespace Conformance

namespace Json.Value

theorem areWritable_strings (items : List String) : AreWritable (items.map string) := by
  induction items with
  | nil => exact trivial
  | cons s items ih => exact ⟨trivial, ih⟩

theorem strings?_strings (items : List String) : (strings items).strings? = some items := by
  rw [strings, strings?]
  induction items with
  | nil => rfl
  | cons s items ih =>
    rw [List.map_cons, List.mapM_cons, ih]
    rfl

end Json.Value

theorem AuditStatus.ofName?_name (s : AuditStatus) : ofName? s.name = some s := by
  cases s <;> rfl

theorem Augmentation.ofName?_name (a : Augmentation) : ofName? a.name = some a := by
  cases a <;> rfl

namespace DeviationReport

theorem ofJson?_toJson (r : DeviationReport) : ofJson? r.toJson = some r := by
  have hfields : r.toJson.fields? ["missing", "extra", "status"] =
      some [.strings r.missing, .strings r.extra, .string r.status.name] := rfl
  have hstatus : (Json.Value.string r.status.name).case?.bind AuditStatus.ofName? =
      some r.status := AuditStatus.ofName?_name r.status
  rw [ofJson?, hfields]
  simp only [Json.Value.strings?_strings, hstatus]
  rfl

end DeviationReport

namespace StoredReport

theorem isWritable_toJson (r : StoredReport) : r.toJson.IsWritable :=
  ⟨trivial, trivial, trivial, trivial,
    ⟨Json.Value.areWritable_strings _, Json.Value.areWritable_strings _, trivial, trivial⟩, trivial⟩

theorem ofJson?_toJson (r : StoredReport) : ofJson? r.toJson = some r := by
  have hfields : r.toJson.fields? ["device", "generated_at", "snapshot", "augmentation", "report"] =
      some [.string r.device, .string r.generatedAt, .string r.snapshot,
        .string r.augmentation.name, r.report.toJson] := rfl
  have haugmentation : (Json.Value.string r.augmentation.name).case?.bind Augmentation.ofName? =
      some r.augmentation := Augmentation.ofName?_name r.augmentation
  rw [ofJson?, hfields]
  simp only [DeviationReport.ofJson?_toJson, haugmentation]
  rfl

theorem ofBytes?_encode (r : StoredReport) : ofBytes? (Text.toBytes r.encode) = some r := by
  rw [ofBytes?, encode, Json.parse?_print r.isWritable_toJson, Option.bind_some, ofJson?_toJson]

end StoredReport
end Conformance
