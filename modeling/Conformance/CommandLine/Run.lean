import Conformance.CommandLine.Arguments
import Conformance.CommandLine.Output
import Conformance.Watch

/-!
# Running commands

A command reads the settings, starts from their files, and answers with an exit code and what it
prints. It fails without output if the arguments or the files are not as they must be, and is aborted
where it needs a fleet and there can be none.
-/
namespace Conformance.CommandLine

structure Finish where
  code : Nat
  output : String
  deriving DecidableEq, Repr

namespace Finish

/-- Everything went well. -/
def success (output : String) : Finish :=
  ⟨0, output⟩

/-- Something failed, after this output. -/
def failure (output : String) : Finish :=
  ⟨1, output⟩

/-- The arguments make no sense. -/
def misuse : Finish :=
  ⟨2, ""⟩

/-- The program broke off. -/
def aborted : Finish :=
  ⟨101, ""⟩

def ofSuccess (success : Bool) (output : String) : Finish :=
  if success then .success output else .failure output

end Finish

/-- What a command works with. -/
structure Setting where
  settings : Settings
  auditor : Auditor

/-- Reads settings and what they name. -/
def start? (t : FileTree) (p : Path) : Option Setting := do
  let settings ← (Settings.load t p).toOption
  return ⟨settings, ← (Auditor.load t settings).toOption⟩

namespace Setting

def store (s : Setting) : Store FileTree :=
  s.settings.directories.store

/-- The status of a device; the freshness is asked for first. -/
def status (s : Setting) (t : FileTree) (device : Device) : DeviceStatus :=
  let ask := fun {α : Type} (p : Scan α) => (p.run.run s.store t).1
  ⟨device.name, do
    let freshness ← ask (Auditor.freshness device.name)
    return (freshness, ← ask (Auditor.latestReport device.name))⟩

/-- Performs a command at the moment `now`. Of a watch this is the first audit. -/
def perform (s : Setting) (json : Bool) (reason : String) (now : Moment) (t : FileTree) :
    Command → Finish × FileTree
  | .audit names force =>
    match s.settings.select names with
    | .error _ => (.failure "", t)
    | .ok devices =>
      if Fleet.admits s.settings.maxConcurrentScans then
        let (audits, t) := s.auditor.scanAll s.store now force devices t
        (.ofSuccess (!audits.any (·.isFailure)) (showAudits json reason audits), t)
      else (.aborted, t)
  | .status names =>
    match s.settings.select names with
    | .error _ => (.failure "", t)
    | .ok devices =>
      let rows := devices.map (s.status t)
      (.ofSuccess (!rows.any (·.isFailure)) (showStatus json reason rows), t)
  | .checkTemplates =>
    let results := s.auditor.library.verify s.auditor.mapping
    (.ofSuccess (results.all (·.2.isOk)) (showTemplates json reason results), t)
  | .watch =>
    if Fleet.admits s.settings.maxConcurrentScans then
      match t.open? s.settings.locations.snapshots with
      | .error _ => (.failure "", t)
      | .ok _ =>
        let (batches, t) := s.auditor.watch s.settings s.store now [] t
        (.success (String.join (batches.map (showAudits json reason))), t)
    else (.aborted, t)

end Setting

/-- Runs the program. -/
def run (args : List String) (reason : String) (now : Moment) (t : FileTree) :
    Finish × FileTree :=
  match Invocation.parse? args with
  | none => (.misuse, t)
  | some invocation =>
    match start? t invocation.settings with
    | none => (.failure "", t)
    | some s => s.perform invocation.json reason now t invocation.command

end Conformance.CommandLine
