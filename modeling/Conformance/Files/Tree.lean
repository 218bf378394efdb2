import Conformance.Catalog
import Conformance.Files.FileError
import Conformance.Files.Path
import Conformance.Text.Bytes

/-!
# File trees

A file tree holds files and directories at places, a place being the names on the way from the root.
Paths lead to places step by step from the root or from the working directory, through directories
only. What is at other places than the ones an operation is about stays as it is.
-/
namespace Conformance

/-- The names on the way from the root. -/
abbrev Place := List String

inductive Entry where
  | file (bytes : List UInt8)
  | directory
  deriving DecidableEq, Repr

structure FileTree where
  /-- What is at places below the root. Of two entries for a place the first one counts. -/
  entries : List (Place × Entry)
  /-- Where relative paths start. -/
  here : Place

namespace FileTree

/-! ## Places -/

def at? (t : FileTree) : Place → Option Entry
  | [] => some .directory
  | place => t.entries.lookup place

def isDirectoryAt (t : FileTree) (place : Place) : Bool :=
  t.at? place == some .directory

def put (t : FileTree) (place : Place) (entry : Entry) : FileTree :=
  { t with entries := (place, entry) :: t.entries.filter (·.1 != place) }

def erase (t : FileTree) (place : Place) : FileTree :=
  { t with entries := t.entries.filter (·.1 != place) }

/-- Removes what is at a place and below it. -/
def eraseAll (t : FileTree) (place : Place) : FileTree :=
  { t with entries := t.entries.filter (!place.isPrefixOf ·.1) }

/-- The names of what is directly below a place, in ascending order. -/
def namesAt (t : FileTree) (place : Place) : List String :=
  (Catalog.ofList (t.entries.filterMap fun (p, _) =>
    if p.dropLast == place then p.getLast?.map (·, ()) else none)).keys

/-- The names of the files directly below a place, in ascending order. -/
def filesAt (t : FileTree) (place : Place) : List String :=
  (t.namesAt place).filter fun name => match t.at? (place ++ [name]) with
    | some (.file _) => true
    | _ => false

/-! ## Ways -/

/-- Names have at most this many bytes. -/
def longestName : Nat := 255

/-- Paths have fewer bytes than this. -/
def pathLimit : Nat := 4096

/-- The place that steps lead to. All places before the last step must be directories. -/
def walk (t : FileTree) (place : Place) : List String → Except FileError Place
  | [] => .ok place
  | step :: steps =>
    match t.at? place with
    | none => .error .notFound
    | some (.file _) => .error .notADirectory
    | some .directory =>
      if step == "." then t.walk place steps
      else if step == ".." then t.walk place.dropLast steps
      else if longestName < step.utf8ByteSize then .error .nameTooLong
      else t.walk (place ++ [step]) steps

def start (t : FileTree) (p : Path) : Place :=
  if p.isAbsolute then [] else t.here

/-- Refuses paths that no tree has. -/
def checkPath (p : Path) : Except FileError Unit :=
  if p.toList.contains '\x00' then .error .nulInName
  else if p.isEmpty then .error .notFound
  else if pathLimit ≤ p.utf8ByteSize then .error .nameTooLong
  else .ok ()

/-- The place of a path, whether there is anything or not. -/
def locate (t : FileTree) (p : Path) : Except FileError Place := do
  checkPath p
  t.walk (t.start p) (p.steps ++ if p.endsInSlash then ["."] else [])

/-! ## Reading -/

/-- The place and the entry of a path. -/
def open? (t : FileTree) (p : Path) : Except FileError (Place × Entry) := do
  let place ← t.locate p
  match t.at? place with
  | some entry => return (place, entry)
  | none => throw .notFound

def readBytes (t : FileTree) (p : Path) : Except FileError (List UInt8) := do
  match ← t.open? p with
  | (_, .file bytes) => return bytes
  | (_, .directory) => throw .isADirectory

def readText (t : FileTree) (p : Path) : Except FileError String := do
  match Text.ofBytes? (← t.readBytes p) with
  | some text => return text
  | none => throw .notText

/-- The names of the files in a directory, in ascending order. -/
def listFiles (t : FileTree) (p : Path) : Except FileError (List String) := do
  match ← t.open? p with
  | (place, .directory) => return t.filesAt place
  | (_, .file _) => throw .notADirectory

def isDirectory (t : FileTree) (p : Path) : Bool :=
  match t.open? p with
  | .ok (_, .directory) => true
  | _ => false

/-! ## Changing -/

/-- Writes a file, in place of any file there. -/
def writeFile (t : FileTree) (p : Path) (bytes : List UInt8) : Except FileError FileTree := do
  let place ← t.locate p
  if t.isDirectoryAt place then throw .isADirectory
  return t.put place (.file bytes)

def removeFile (t : FileTree) (p : Path) : Except FileError FileTree := do
  match ← t.open? p with
  | (place, .file _) => return t.erase place
  | (_, .directory) => throw .isADirectory

/-- Moves a file, in place of any file there. -/
def moveFile (t : FileTree) (source target : Path) : Except FileError FileTree := do
  match ← t.open? source with
  | (_, .directory) => throw .isADirectory
  | (place, .file bytes) =>
    let place' ← t.locate target
    if t.isDirectoryAt place' then throw .isADirectory
    return (t.erase place).put place' (.file bytes)

/-- Makes a directory where nothing is yet. -/
def makeDirectory (t : FileTree) (place : Place) (steps : List String) :
    Except FileError FileTree := do
  let place ← t.walk place steps
  match t.at? place with
  | some _ => throw .alreadyExists
  | none => return t.put place .directory

/-- Why there is no directory at the end of a way, unless there is one. -/
def unlessThere (t : FileTree) (place : Place) (way : List String) (cause : FileError) :
    Except FileError Unit :=
  match t.walk place way with
  | .ok found => if t.isDirectoryAt found then .ok () else .error cause
  | .error _ => .error cause

/-- The shorter ways that end before a step other than `.`, the longest first. -/
def shorterWays (steps : List String) : List (List String) :=
  (((List.range steps.length).filter (steps[·]? != some ".")).map
    fun n => steps.take (n + 1)).dropLast.reverse

/-- Makes the directory at the first of several ways. If the way to it is missing, the directories
at the other ways come first, and stay even if this one cannot be made. -/
def makeAll (t : FileTree) (place : Place) : List (List String) → Except FileError Unit × FileTree
  | [] => (.ok (), t)
  | way :: ways =>
    match t.makeDirectory place way with
    | .ok t => (.ok (), t)
    | .error .notFound =>
      match t.makeAll place ways with
      | (.error cause, t) => (.error cause, t)
      | (.ok _, t) =>
        match t.makeDirectory place way with
        | .ok t => (.ok (), t)
        | .error cause => (t.unlessThere place way cause, t)
    | .error cause => (t.unlessThere place way cause, t)

/-- Makes a directory and those on the way to it, as far as there are none. -/
def makeDirectories (t : FileTree) (p : Path) : Except FileError Unit × FileTree :=
  match checkPath p with
  | .error cause => (.error cause, t)
  | .ok _ => t.makeAll (t.start p) (p.steps :: shorterWays p.steps)

end FileTree
end Conformance
