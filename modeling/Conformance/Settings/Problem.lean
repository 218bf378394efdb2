import Conformance.Settings.Address
import Conformance.Settings.Basic
import Conformance.Text.Blank
import Conformance.Text.Quoted

/-!
# Problems of settings

Settings can be readable and still make no sense. All problems are found, in a fixed order.
-/
namespace Conformance

inductive Problem where
  | emptyField (field : String)
  /-- The position counts from zero. -/
  | emptyDeviceName (position : Nat)
  | unsafeDeviceName (name : String)
  | duplicateDevice (name : String)
  | zeroConcurrency
  | invalidAddress (address : String)
  deriving DecidableEq, Repr

namespace Problem

def message : Problem → String
  | emptyField field => field ++ " must not be empty"
  | emptyDeviceName position => "device #" ++ toString position ++ " has an empty name"
  | unsafeDeviceName name =>
    "device name " ++ Text.quote name ++ " must not contain path separators or start with '.'"
  | duplicateDevice name => "device " ++ Text.quote name ++ " is listed more than once"
  | zeroConcurrency => "fleet.max_concurrent_scans must be greater than 0"
  | invalidAddress address =>
    "observability.metrics_address " ++ Text.quote address ++ " is not a socket address"

end Problem

namespace Settings

def emptyFields (s : Settings) : List Problem :=
  let isBlank := fun text => (Text.trim text).isEmpty
  ([("paths.templates_dir", s.locations.templates.isEmpty),
    ("paths.snapshots_dir", s.locations.snapshots.isEmpty),
    ("paths.reports_dir", s.locations.reports.isEmpty),
    ("paths.terms_table", s.locations.termTable.isEmpty),
    ("paths.variables_table", s.locations.variableTable.isEmpty),
    ("templates.baseline", isBlank s.templates.baseline),
    ("templates.els", isBlank s.templates.els),
    ("templates.non_els", isBlank s.templates.nonEls),
    ("templates.routing", isBlank s.templates.routing),
    ("templates.optional", isBlank s.templates.optional)].filter Prod.snd).map
      fun (field, _) => .emptyField field

/-- Whether a name cannot be that of a directory for one device. -/
def isUnsafe (name : String) : Bool :=
  name.toList.contains '/' || name.toList.contains '\\' || name.toList.head? == some '.'

/-- The problems of the entries from `position` on, after entries with the names in `seen`. Blanks
at the ends of names do not tell devices apart. -/
def inventoryProblems (seen : List String) (position : Nat) : List InventoryEntry → List Problem
  | [] => []
  | entry :: entries =>
    let name := Text.trim entry.name
    if name.isEmpty then
      .emptyDeviceName position :: inventoryProblems seen (position + 1) entries
    else
      (if isUnsafe name then [.unsafeDeviceName entry.name] else []) ++
        (if seen.contains name then [.duplicateDevice entry.name] else []) ++
        inventoryProblems (name :: seen) (position + 1) entries

def problems (s : Settings) : List Problem :=
  s.emptyFields ++ inventoryProblems [] 0 s.inventory ++
    (if s.maxConcurrentScans = 0 then [.zeroConcurrency] else []) ++
    (if s.monitoring.metricsEnabled && !Address.isSocket s.monitoring.metricsAddress then
      [.invalidAddress s.monitoring.metricsAddress] else [])

end Settings
end Conformance
