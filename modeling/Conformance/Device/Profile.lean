import Conformance.Text.Blank
import Conformance.Text.Parts

/-!
# Device profiles

What the choice of templates depends on: the family that a device's model belongs to, and whether
its configuration runs a dynamic routing protocol.
-/
namespace Conformance

/-- Families of configuration syntax; `els` models have the Enhanced Layer 2 Software. -/
inductive Family where
  | els
  | nonEls
  deriving DecidableEq, Repr

namespace Family

def name : Family → String
  | els => "els"
  | nonEls => "non-els"

def defaultMarkers : List String :=
  ["EX2300", "EX3400", "EX4300", "EX4400", "EX4600", "EX4650", "EX9200", "QFX"]

def upper (s : String) : List Char :=
  s.toList.map Char.toUpper

/-- A model that contains a marker, in either case, is `els`. -/
def classify (markers : List String) (model : String) : Family :=
  if markers.any fun m => m != "" && Text.occursIn (upper m) (upper model) then els else nonEls

end Family

/-- A device that can be audited. -/
structure Device where
  name : String
  family : Family
  deriving DecidableEq, Repr

structure Profile where
  family : Family
  routing : Bool
  deriving DecidableEq, Repr

def routingProtocols : List String :=
  ["ospf", "ospf3", "bgp", "isis", "rip", "ripng"]

def isRoutingLine (line : String) : Bool :=
  match Text.words line with
  | "set" :: "protocols" :: protocol :: _ => routingProtocols.contains protocol
  | _ => false

/-- Whether a configuration sets up a dynamic routing protocol. -/
def runsRouting (lines : List String) : Bool :=
  lines.any isRoutingLine

end Conformance
