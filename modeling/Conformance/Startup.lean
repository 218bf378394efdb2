import Conformance.Files.Tree
import Conformance.Refresh
import Conformance.Settings.Reader
import Conformance.Store.Files
import Conformance.Table.Lookup

/-!
# Starting from files

The settings are read first and name the files that the tables and the templates are in. The tables
come before the templates; the first failure ends the start.
-/
namespace Conformance

inductive StartupError where
  | tableFile (path : Path) (cause : FileError)
  | table (path : Path) (cause : TableError)
  | template (path : Path) (cause : FileError)
  | unknownDevice (name : String)
  deriving DecidableEq, Repr

/-- The message, with `reason` for why a table cannot be decoded. -/
def StartupError.message (reason : String) : StartupError → String
  | tableFile path cause => "failed to read table " ++ path ++ ": " ++ cause.message
  | table path cause => cause.message path reason
  | template path cause => "failed to read template " ++ path ++ ": " ++ cause.message
  | unknownDevice name => "device " ++ Text.quote name ++ " is not in the inventory"

namespace Settings

/-- Reads settings from a file. Relative locations start where the file is. -/
def load (t : FileTree) (p : Path) : Except SettingsError Settings := do
  let s ← parse (← (t.readText p).mapError .files)
  return match Path.parent? p with
    | some base => { s with locations := s.locations.anchor base }
    | none => s

def directories (s : Settings) : Directories :=
  ⟨s.locations.snapshots, s.locations.reports⟩

/-- The devices with these names, or all devices if there are no names. -/
def select (s : Settings) (names : List String) : Except StartupError (List Device) :=
  if names.isEmpty then .ok s.devices
  else names.mapM fun name => match s.device? name with
    | some device => .ok device
    | none => .error (.unknownDevice name)

end Settings

def loadTable (t : FileTree) (p : Path) : Except StartupError (Catalog String) :=
  match t.readBytes p with
  | .ok bytes => (Table.parse bytes).mapError (.table p)
  | .error .isADirectory => .error (.table p .undecodable)
  | .error cause => .error (.tableFile p cause)

namespace Library

def loadRequired (t : FileTree) (p : Path) : Except StartupError (List TemplateLine) :=
  ((t.readText p).map parseTemplate).mapError (.template p)

/-- A template that may be missing, and then has no lines. -/
def loadOptional (t : FileTree) (p : Path) : Except StartupError (List TemplateLine) :=
  match t.readText p with
  | .error .notFound => .ok []
  | result => (result.map parseTemplate).mapError (.template p)

/-- Only the baseline has to be there. -/
def load (t : FileTree) (directory : Path) (files : TemplateFiles) :
    Except StartupError Library := do
  return ⟨← loadRequired t (directory.join files.baseline),
    ← loadOptional t (directory.join files.els),
    ← loadOptional t (directory.join files.nonEls),
    ← loadOptional t (directory.join files.routing),
    ← loadOptional t (directory.join files.optional)⟩

end Library

namespace Auditor

def load (t : FileTree) (s : Settings) : Except StartupError Auditor := do
  let terms ← loadTable t s.locations.termTable
  let meanings ← loadTable t s.locations.variableTable
  let library ← Library.load t s.locations.templates s.templates
  return ⟨library, .ofTables terms meanings⟩

end Auditor
end Conformance
