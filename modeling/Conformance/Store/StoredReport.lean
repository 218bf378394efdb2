import Conformance.Deviation.Report
import Conformance.Json.Printer
import Conformance.Json.Reader
import Conformance.Template.Library

/-!
# Stored reports

A deviation report as it is kept for a device, and its form as JSON.
-/
namespace Conformance

structure StoredReport where
  device : String
  /-- The stamp of the report. -/
  generatedAt : String
  /-- The identifier of the snapshot that the report is about. -/
  snapshot : String
  augmentation : Augmentation
  report : DeviationReport
  deriving DecidableEq, Repr

namespace DeviationReport

def toJson (r : DeviationReport) : Json.Value :=
  .object [("missing", .strings r.missing), ("extra", .strings r.extra),
    ("status", .string r.status.name)]

/-- Takes the status as it is written, whatever the lists imply. -/
def ofJson? (v : Json.Value) : Option DeviationReport :=
  match v.fields? ["missing", "extra", "status"] with
  | some [missing, extra, status] => do
    return ⟨← missing.strings?, ← extra.strings?, ← status.case?.bind AuditStatus.ofName?⟩
  | _ => none

end DeviationReport

namespace StoredReport

/-- The identifier of a device's report with this stamp. -/
def idOf (device stamp : String) : String :=
  device ++ "_deviation_" ++ stamp ++ ".json"

def id (r : StoredReport) : String :=
  idOf r.device r.generatedAt

def toJson (r : StoredReport) : Json.Value :=
  .object [("device", .string r.device), ("generated_at", .string r.generatedAt),
    ("snapshot", .string r.snapshot), ("augmentation", .string r.augmentation.name),
    ("report", r.report.toJson)]

def ofJson? (v : Json.Value) : Option StoredReport :=
  match v.fields? ["device", "generated_at", "snapshot", "augmentation", "report"] with
  | some [device, generatedAt, snapshot, augmentation, report] => do
    return ⟨← device.string?, ← generatedAt.string?, ← snapshot.string?,
      ← augmentation.case?.bind Augmentation.ofName?, ← DeviationReport.ofJson? report⟩
  | _ => none

def encode (r : StoredReport) : String :=
  Json.print r.toJson

/-- What the bytes of a file say. Members that reports do not have are passed over, whatever strings
they hold. -/
def ofBytes? (bytes : List UInt8) : Option StoredReport :=
  (Json.parse? bytes).bind ofJson?

def decode? (text : String) : Option StoredReport :=
  ofBytes? (Text.toBytes text)

end StoredReport
end Conformance
