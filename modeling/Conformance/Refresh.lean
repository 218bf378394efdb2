import Conformance.Deviation.Matching
import Conformance.Store.Program
import Conformance.Time.Freshness
import Conformance.Time.Stamp

/-!
# Scans

A scan of a device answers with its newest report while that covers the newest snapshot, and
otherwise audits the snapshot and keeps a new report. The stamp of a report is never before that of
its snapshot. Templates are compiled before anything in the store changes.
-/
namespace Conformance

/-- Why a scan fails. -/
inductive ScanError where
  | compile (device : String) (cause : CompileError)
  | store (cause : StoreError)
  deriving DecidableEq, Repr

def ScanError.message (reason : String) : ScanError → String
  | compile device cause =>
    "template compilation failed for " ++ device ++ ": " ++ cause.message reason
  | store cause => cause.message reason

inductive Outcome where
  /-- There is no snapshot of the device. -/
  | noConfig
  | upToDate (report : StoredReport)
  /-- There is a new report; `discarded` reports before it were removed. -/
  | refreshed (report : StoredReport) (discarded : Nat)
  deriving DecidableEq, Repr

namespace Outcome

def name : Outcome → String
  | noConfig => "no-config"
  | upToDate _ => "up-to-date"
  | refreshed _ _ => "refreshed"

def report? : Outcome → Option StoredReport
  | noConfig => none
  | upToDate r | refreshed r _ => some r

def status? (o : Outcome) : Option AuditStatus :=
  o.report?.map (·.report.status)

def discarded : Outcome → Nat
  | refreshed _ n => n
  | _ => 0

end Outcome

/-- A program that may fail. -/
abbrev Scan := ExceptT ScanError Program

namespace Scan

def ask (r : Request) : Scan r.Answer :=
  ExceptT.mk (.ask r fun answer => .done (answer.mapError .store))

def count (metric : Metric) (amount : Nat) : Scan Unit :=
  ExceptT.mk (.count ⟨metric, amount⟩ (.done (.ok ())))

end Scan

/-- What devices are audited against. -/
structure Auditor where
  library : Library
  mapping : Mapping

namespace Auditor

/-- The newest snapshot and the newest report of a device, by their stamps. -/
def latest (device : String) : Scan (Option (Moment × String) × Option (Moment × String)) := do
  let snapshots ← Scan.ask (.snapshotIds device)
  let reports ← Scan.ask (.reportIds device)
  return (Stamp.latest? snapshots, Stamp.latest? reports)

/-- The freshness of a device's newest report. -/
def freshness (device : String) : Scan Freshness := do
  let (snapshot, report) ← latest device
  return .evaluate (snapshot.map Prod.fst) (report.map Prod.fst) false

/-- The newest report of a device. -/
def latestReport (device : String) : Scan (Option StoredReport) := do
  let (_, report) ← latest device
  match report with
  | none => return none
  | some (_, id) => return some (← Scan.ask (.loadReport device id))

/-- Audits the lines of a snapshot. -/
def audit (a : Auditor) (device : Device) (lines : List String) :
    Except CompileError (Augmentation × DeviationReport) := do
  let compiled ← a.library.compile a.mapping ⟨device.family, runsRouting lines⟩
  return (compiled.augmentation, findDeviations compiled.mandatory compiled.optional lines)

/-- Audits a snapshot and keeps the report; with `force`, removes the reports before it. -/
def refresh (a : Auditor) (now : Moment) (device : Device) (force : Bool)
    (snapshot : Moment × String) : Scan Outcome := do
  let lines ← Scan.ask (.loadSnapshot device.name snapshot.2)
  match a.audit device lines with
  | .error cause =>
    Scan.count .compileFailures 1
    throw (.compile device.name cause)
  | .ok (augmentation, report) =>
    Scan.count .missingLines report.missing.length
    Scan.count .extraLines report.extra.length
    let discarded ← if force then Scan.ask (.discardReports device.name) else pure (0 : Nat)
    let stored : StoredReport :=
      ⟨device.name, Stamp.format (now.latest snapshot.1), snapshot.2, augmentation, report⟩
    let _ ← Scan.ask (.saveReport stored)
    return .refreshed stored discarded

/-- What a scan comes to, given the newest snapshot and the newest report. -/
def decide (a : Auditor) (now : Moment) (device : Device) (force : Bool) :
    Option (Moment × String) → Option (Moment × String) → Scan Outcome
  | none, _ => return .noConfig
  | some snapshot, report =>
    match Freshness.evaluate (some snapshot.1) (report.map Prod.fst) force, report with
    | .upToDate, some (_, id) => return .upToDate (← Scan.ask (.loadReport device.name id))
    | _, _ => a.refresh now device force snapshot

/-- Scans a device at the moment `now`; with `force`, even if its report is up to date. -/
def scan (a : Auditor) (now : Moment) (device : Device) (force : Bool) : Scan Outcome := do
  let (snapshot, report) ← latest device.name
  let outcome ← a.decide now device force snapshot report
  Scan.count (.scans outcome.name outcome.status?) 1
  return outcome

end Auditor
end Conformance
