import Conformance.Store.Request

/-!
# Stores in memory
-/
namespace Conformance

/-- What is kept for one device. -/
structure Artifacts where
  snapshots : Catalog (List String)
  reports : Catalog StoredReport

abbrev Memory := Catalog Artifacts

namespace Memory

def of (m : Memory) (device : String) : Artifacts :=
  (m.get? device).getD ⟨.empty, .empty⟩

def addSnapshot (m : Memory) (device id : String) (lines : List String) : Memory :=
  m.insert device { m.of device with snapshots := (m.of device).snapshots.insert id lines }

def withReports (m : Memory) (device : String) (reports : Catalog StoredReport) : Memory :=
  m.insert device { m.of device with reports }

def found {α : Type} (device : String) (kind : Artifact) (id : String) :
    Option α → Except StoreError α
  | some a => .ok a
  | none => .error (.notFound device kind id)

def store : Store Memory
  | .snapshotIds device, m => (.ok (m.of device).snapshots.keys, m)
  | .loadSnapshot device id, m => (found device .snapshot id ((m.of device).snapshots.get? id), m)
  | .reportIds device, m => (.ok (m.of device).reports.keys, m)
  | .loadReport device id, m => (found device .report id ((m.of device).reports.get? id), m)
  | .saveReport r, m => (.ok r.id, m.withReports r.device ((m.of r.device).reports.insert r.id r))
  | .discardReports device, m =>
    if m.contains device then (.ok (m.of device).reports.size, m.withReports device .empty)
    else (.ok (0 : Nat), m)

end Memory
end Conformance
