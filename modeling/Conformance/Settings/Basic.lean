import Conformance.Device.Profile
import Conformance.Files.Path

/-!
# Settings

What a configuration says: where files are, what they are called, how devices are told apart, and
which devices there are.
-/
namespace Conformance

structure Locations where
  templates : Path := "templates"
  snapshots : Path := "snapshots"
  reports : Path := "reports"
  termTable : Path := "templates/terms.csv"
  variableTable : Path := "templates/variables.csv"
  deriving DecidableEq, Repr

namespace Locations

/-- Puts relative locations below `base`. -/
def anchor (base : Path) (l : Locations) : Locations :=
  ⟨base.anchor l.templates, base.anchor l.snapshots, base.anchor l.reports, base.anchor l.termTable,
    base.anchor l.variableTable⟩

end Locations

/-- The names of the template files. -/
structure TemplateFiles where
  baseline : String := "baseline.conf"
  els : String := "els.conf"
  nonEls : String := "non-els.conf"
  routing : String := "routing.conf"
  optional : String := "optional.conf"
  deriving DecidableEq, Repr

structure Monitoring where
  logLevel : String := "info"
  metricsEnabled : Bool := false
  metricsAddress : String := "127.0.0.1:9090"
  deriving DecidableEq, Repr

/-- A device of the inventory. -/
structure InventoryEntry where
  name : String
  model : String := ""
  deriving DecidableEq, Repr

structure Settings where
  locations : Locations := {}
  templates : TemplateFiles := {}
  markers : List String := Family.defaultMarkers
  maxConcurrentScans : Nat := 8
  monitoring : Monitoring := {}
  inventory : List InventoryEntry := []
  deriving DecidableEq, Repr

namespace Settings

/-- The device of an entry, its family told by its model. -/
def device (s : Settings) (entry : InventoryEntry) : Device :=
  ⟨entry.name, .classify s.markers entry.model⟩

/-- All devices, in the order of the inventory. -/
def devices (s : Settings) : List Device :=
  s.inventory.map s.device

/-- The first device with this name. -/
def device? (s : Settings) (name : String) : Option Device :=
  (s.inventory.find? (·.name == name)).map s.device

end Settings
end Conformance
