import Conformance.Files.Tree
import Conformance.Store.Request
import Conformance.Text.Lines

/-!
# Stores in file trees

Two directories hold one directory per device, for its snapshots and for its reports. A report is
written under a name that is not a report's and then moved, so that it is never there in part.
-/
namespace Conformance

/-- Where the snapshots and the reports of all devices are. -/
structure Directories where
  snapshots : Path
  reports : Path
  deriving DecidableEq, Repr

namespace Directories
variable (d : Directories)

def snapshotsOf (device : String) : Path :=
  d.snapshots.join device

def reportsOf (device : String) : Path :=
  d.reports.join device

def isSnapshotName (name : String) : Bool :=
  name.toList.head? != some '.'

def isReportName (name : String) : Bool :=
  Text.occursIn "_deviation_".toList name.toList && ".json".toList.isSuffixOf name.toList

/-- The name of a report that is being written. -/
def unfinishedName (id : String) : String :=
  "." ++ id ++ ".tmp"

/-- The names of the files in a directory that `keep` picks; a missing directory has none. -/
def list (t : FileTree) (p : Path) (keep : String → Bool) : Except StoreError (List String) :=
  match t.listFiles p with
  | .ok names => .ok (names.filter keep)
  | .error .notFound => .ok []
  | .error cause => .error (.files p cause)

def reportIds (t : FileTree) (device : String) : Except StoreError (List String) :=
  list t (d.reportsOf device) isReportName

def loadSnapshot (t : FileTree) (device id : String) : Except StoreError (List String) :=
  let p := (d.snapshotsOf device).join id
  match t.readText p with
  | .ok text => .ok (Text.lines text)
  | .error .notFound => .error (.notFound device .snapshot id)
  | .error cause => .error (.files p cause)

def loadReport (t : FileTree) (device id : String) : Except StoreError StoredReport :=
  let p := (d.reportsOf device).join id
  match t.readBytes p with
  | .ok bytes =>
    match StoredReport.ofBytes? bytes with
    | some r => .ok r
    | none => .error (.corrupt id)
  | .error .notFound => .error (.notFound device .report id)
  | .error .isADirectory => .error (.corrupt id)
  | .error cause => .error (.files p cause)

def saveReport (t : FileTree) (r : StoredReport) : Except StoreError String × FileTree :=
  let directory := d.reportsOf r.device
  match t.makeDirectories directory with
  | (.error cause, t) => (.error (.files directory cause), t)
  | (.ok _, t) =>
    let unfinished := directory.join (unfinishedName r.id)
    match t.writeFile unfinished (Text.toBytes r.encode) with
    | .error cause => (.error (.files unfinished cause), t)
    | .ok written =>
      let p := directory.join r.id
      match written.moveFile unfinished p with
      | .error cause =>
        (.error (.files p cause), (written.removeFile unfinished).toOption.getD written)
      | .ok t => (.ok r.id, t)

/-- Removes files one after the other until one cannot be removed. -/
def removeAll (t : FileTree) (directory : Path) : List String → Except StoreError Unit × FileTree
  | [] => (.ok (), t)
  | name :: names =>
    let p := directory.join name
    match t.removeFile p with
    | .error cause => (.error (.files p cause), t)
    | .ok t => removeAll t directory names

def discardReports (t : FileTree) (device : String) : Except StoreError Nat × FileTree :=
  match d.reportIds t device with
  | .error cause => (.error cause, t)
  | .ok ids =>
    let (result, t) := removeAll t (d.reportsOf device) ids
    (result.map fun _ => ids.length, t)

def store : Store FileTree
  | .snapshotIds device, t => (list t (d.snapshotsOf device) isSnapshotName, t)
  | .loadSnapshot device id, t => (d.loadSnapshot t device id, t)
  | .reportIds device, t => (d.reportIds t device, t)
  | .loadReport device id, t => (d.loadReport t device id, t)
  | .saveReport r, t => d.saveReport t r
  | .discardReports device, t => d.discardReports t device

end Directories
end Conformance
