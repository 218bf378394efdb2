import Conformance.Files.FileError
import Conformance.Settings.Problem
import Conformance.Toml.Document

/-!
# Reading settings

Settings are written in TOML. What is not given has a default, except the name of a device; what is
not known is passed over.
-/
namespace Conformance

open Toml (Value)

/-- Reads a value if it is given. -/
def given {α : Type} (read : Value → Option α) (default : α) : Option Value → Option α
  | some v => read v
  | none => some default

namespace Locations

def ofToml? (v : Value) : Option Locations :=
  let standard : Locations := {}
  match v.fields?
    ["templates_dir", "snapshots_dir", "reports_dir", "terms_table", "variables_table"] with
  | some [templates, snapshots, reports, termTable, variableTable] => do
    return ⟨← given Value.string? standard.templates templates,
      ← given Value.string? standard.snapshots snapshots,
      ← given Value.string? standard.reports reports,
      ← given Value.string? standard.termTable termTable,
      ← given Value.string? standard.variableTable variableTable⟩
  | _ => none

end Locations

namespace TemplateFiles

def ofToml? (v : Value) : Option TemplateFiles :=
  let standard : TemplateFiles := {}
  match v.fields? ["baseline", "els", "non_els", "routing", "optional"] with
  | some [baseline, els, nonEls, routing, optional] => do
    return ⟨← given Value.string? standard.baseline baseline,
      ← given Value.string? standard.els els,
      ← given Value.string? standard.nonEls nonEls,
      ← given Value.string? standard.routing routing,
      ← given Value.string? standard.optional optional⟩
  | _ => none

end TemplateFiles

namespace Monitoring

def ofToml? (v : Value) : Option Monitoring :=
  let standard : Monitoring := {}
  match v.fields? ["log_level", "metrics_enabled", "metrics_address"] with
  | some [level, enabled, address] => do
    return ⟨← given Value.string? standard.logLevel level,
      ← given Value.boolean? standard.metricsEnabled enabled,
      ← given Value.string? standard.metricsAddress address⟩
  | _ => none

end Monitoring

namespace InventoryEntry

def ofToml? (v : Value) : Option InventoryEntry :=
  match v.fields? ["name", "model"] with
  | some [name, model] => do
    return ⟨← name.bind Value.string?, ← given Value.string? "" model⟩
  | _ => none

end InventoryEntry

inductive SettingsError where
  | files (cause : FileError)
  /-- The text is not TOML, or a value is not of the kind that its name asks for. -/
  | unreadable
  | invalid (problems : List Problem)
  deriving DecidableEq, Repr

/-- The message, with `reason` for why a text cannot be read. -/
def SettingsError.message (reason : String) : SettingsError → String
  | files cause => "IO error: " ++ cause.message
  | unreadable => "Parse error: " ++ reason
  | invalid problems => "Validation failed: " ++ ", ".intercalate (problems.map Problem.message)

namespace Settings

/-- Reads a record with one field. -/
def only? {α : Type} (name : String) (read : Value → Option α) (default : α) (v : Value) :
    Option α :=
  match v.fields? [name] with
  | some [field] => given read default field
  | _ => none

def ofToml? (v : Value) : Option Settings :=
  let standard : Settings := {}
  match v.fields?
    ["paths", "templates", "classification", "fleet", "observability", "devices"] with
  | some [paths, templates, classification, fleet, observability, devices] => do
    return ⟨← given Locations.ofToml? standard.locations paths,
      ← given TemplateFiles.ofToml? standard.templates templates,
      ← given (only? "els_markers" Value.strings? standard.markers) standard.markers classification,
      ← given (only? "max_concurrent_scans" Value.count? standard.maxConcurrentScans)
        standard.maxConcurrentScans fleet,
      ← given Monitoring.ofToml? standard.monitoring observability,
      ← given (fun v => v.array?.bind (·.mapM InventoryEntry.ofToml?)) standard.inventory devices⟩
  | _ => none

/-- The settings of a text, if nothing is wrong with them. -/
def parse (text : String) : Except SettingsError Settings :=
  match (Toml.parse? text).bind ofToml? with
  | none => .error .unreadable
  | some s => if s.problems.isEmpty then .ok s else .error (.invalid s.problems)

end Settings
end Conformance
