import Conformance.Fleet
import Conformance.Startup

/-!
# Watching for snapshots

A watch audits the whole inventory once and then every device whose snapshots change, one change
after the other. Devices outside the inventory are passed over.
-/
namespace Conformance

/-- The device that has a snapshot at a place below `root`. -/
def snapshotDevice? (root place : Place) : Option String :=
  if root.isPrefixOf place then
    match place.drop root.length with
    | [device, name] => if Directories.isSnapshotName name then some device else none
    | _ => none
  else none

/-- The device that has a snapshot at a path below `root`. Steps up do not name devices. -/
def Path.snapshotDevice? (root p : Path) : Option String :=
  (Conformance.snapshotDevice? root.components p.components).filter fun device => IsName device

/-- News that the snapshots of a device changed. -/
structure Update where
  now : Moment
  device : String
  deriving DecidableEq, Repr

namespace Auditor
variable {σ : Type} (a : Auditor) (settings : Settings) (store : Store σ)

/-- Audits after each update, a batch of results for each device of the inventory. -/
def followUpdates : List Update → σ → List (List DeviceAudit) × σ
  | [], s => ([], s)
  | update :: updates, s =>
    match settings.device? update.device with
    | none => followUpdates updates s
    | some device =>
      let (audits, s) := a.scanAll store update.now false [device] s
      let (batches, s) := followUpdates updates s
      (audits :: batches, s)

/-- Audits the whole inventory, and then after each update. -/
def watch (now : Moment) (updates : List Update) (s : σ) : List (List DeviceAudit) × σ :=
  let (audits, s) := a.scanAll store now false settings.devices s
  let (batches, s) := a.followUpdates settings store updates s
  (audits :: batches, s)

end Auditor
end Conformance
