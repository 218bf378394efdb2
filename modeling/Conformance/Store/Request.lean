import Conformance.Files.FileError
import Conformance.Store.StoredReport

/-!
# Requests to a store

A store keeps the snapshots and the reports of devices. It is whatever answers these requests.
-/
namespace Conformance

inductive Artifact where
  | snapshot
  | report
  deriving DecidableEq, Repr

def Artifact.name : Artifact → String
  | snapshot => "snapshot"
  | report => "report"

inductive StoreError where
  | files (path : String) (cause : FileError)
  /-- The report under this identifier cannot be decoded. -/
  | corrupt (id : String)
  | notFound (device : String) (kind : Artifact) (id : String)
  deriving DecidableEq, Repr

/-- The message, with `reason` for why a report cannot be decoded. -/
def StoreError.message (reason : String) : StoreError → String
  | files path cause => "I/O error on " ++ path ++ ": " ++ cause.message
  | corrupt id => "report " ++ id ++ " is not valid JSON: " ++ reason
  | notFound device kind id => kind.name ++ " " ++ id ++ " not found for device " ++ device

inductive Request where
  /-- Identifiers of a device's snapshots, ascending. -/
  | snapshotIds (device : String)
  | loadSnapshot (device id : String)
  /-- Identifiers of a device's reports, ascending. -/
  | reportIds (device : String)
  | loadReport (device id : String)
  /-- Keeps a report under its identifier, which is the answer. -/
  | saveReport (report : StoredReport)
  /-- Removes all reports of a device; the answer is their number. -/
  | discardReports (device : String)
  deriving DecidableEq, Repr

/-- What a request that does not fail is answered with. -/
def Request.Answer : Request → Type
  | snapshotIds _ => List String
  | loadSnapshot _ _ => List String
  | reportIds _ => List String
  | loadReport _ _ => StoredReport
  | saveReport _ => String
  | discardReports _ => Nat

/-- How stores with states in `σ` answer requests. -/
abbrev Store (σ : Type) :=
  (r : Request) → σ → Except StoreError r.Answer × σ

end Conformance
