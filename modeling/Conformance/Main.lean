import Conformance.CommandLine.Run
import Std.Time.Zoned

/-!
# The program

Reads the files that a command works with, runs the command on them, writes what the command
changed, and prints. A watch goes on by looking for changed snapshots every second.
-/
namespace Conformance.Disk

open CommandLine (Invocation Setting showAudits)

/-- What the messages of the program say where a text is not in its format. -/
def reason : String := "not in the expected format"

def now : IO Moment := do
  let t ← Std.Time.PlainDateTime.now
  return ⟨t.year.toInt, t.month.val.toNat, t.day.val.toNat, t.hour.val.toNat, t.minute.val.toNat,
    t.second.val.toNat⟩

/-- The place of a path without looking at the disk. -/
def placeOf (here : Place) (p : Path) : Place :=
  p.steps.foldl (fun place step =>
    if step == "." then place else if step == ".." then place.dropLast else place ++ [step])
    (if p.isAbsolute then [] else here)

def pathOf (place : Place) : Path :=
  "/" ++ "/".intercalate place

/-- Adds what is at a place on the disk, and below it. -/
partial def read (t : FileTree) (place : Place) : IO FileTree := do
  let p ← IO.FS.realPath (pathOf place)
  if ← p.isDir then
    let names := (← p.readDir).toList.map (·.fileName)
    names.foldlM (fun t name => read t (place ++ [name])) (t.put place .directory)
  else if ← p.pathExists then
    return t.put place (.file (← IO.FS.readBinFile p).toList)
  else return t

/-- Adds what is at a path, with the directories on the way to it. -/
def readPath (t : FileTree) (p : Path) : IO FileTree := do
  let place := placeOf t.here p
  let directories := (List.range place.length).map place.take
  let t ← directories.foldlM (fun t d => do
    return if ← (← IO.FS.realPath (pathOf d)).isDir then t.put d .directory else t) t
  read t place

/-- Adds all files that settings name. -/
def readSettings (t : FileTree) (s : Settings) : IO FileTree :=
  let l := s.locations
  [l.templates, l.termTable, l.variableTable, l.snapshots, l.reports].foldlM readPath t

/-- Writes the entries that are new in a tree, and removes the files that are no longer there. -/
def write (old new : FileTree) : IO Unit := do
  let changed := new.entries.filter fun (place, entry) => old.at? place != some entry
  for (place, entry) in changed do
    if entry == .directory then IO.FS.createDirAll (pathOf place)
  for (place, entry) in changed do
    if let .file bytes := entry then
      let unfinished := pathOf place ++ ".tmp"
      IO.FS.writeBinFile unfinished ⟨bytes.toArray⟩
      IO.FS.rename unfinished (pathOf place)
  for (place, entry) in old.entries do
    if entry != .directory && (new.at? place).isNone then IO.FS.removeFile (pathOf place)

/-- The devices whose snapshots differ between two trees. -/
def changedDevices (top : Place) (old new : FileTree) : List String :=
  ((new.entries.filter fun (place, entry) => old.at? place != some entry).filterMap
    fun (place, _) => snapshotDevice? top place).eraseDups

/-- Audits devices again as their snapshots change, without an end. -/
partial def follow (s : Setting) (json : Bool) (t : FileTree) : IO Unit := do
  IO.sleep 1000
  let found ← readSettings ⟨[], t.here⟩ s.settings
  let moment ← now
  let top := placeOf t.here s.settings.locations.snapshots
  let updates := (changedDevices top t found).map (⟨moment, ·⟩)
  let (batches, left) := s.auditor.followUpdates s.settings s.store updates found
  write found left
  IO.print (String.join (batches.map (showAudits json reason)))
  follow s json left

def run (args : List String) : IO UInt32 := do
  let here := placeOf [] (← IO.currentDir).toString
  let some invocation := Invocation.parse? args
    | IO.eprintln "usage: [--config PATH] [--json] audit|status|check-templates|watch"
      return 2
  let t ← readPath ⟨[], here⟩ invocation.settings
  match Settings.load t invocation.settings with
  | .error e =>
    IO.eprintln (e.message reason)
    return 1
  | .ok settings =>
    let t ← readSettings t settings
    match Auditor.load t settings with
    | .error e =>
      IO.eprintln (e.message reason)
      return 1
    | .ok auditor =>
      let s : Setting := ⟨settings, auditor⟩
      let (finish, left) := s.perform invocation.json reason (← now) t invocation.command
      write t left
      IO.print finish.output
      if invocation.command == .watch && finish.code == 0 then follow s invocation.json left
      return finish.code.toUInt32

end Conformance.Disk

def main (args : List String) : IO UInt32 :=
  Conformance.Disk.run args
