import Conformance.Fleet

/-!
# Output of the command line

Results are shown as lines of text for people, or as JSON in which all names are sorted.
-/
namespace Conformance.CommandLine

open Json (Value)

/-! ## JSON -/

/-- Puts a member in front of the first one with a later name. -/
def insertMember (m : String × Value) : List (String × Value) → List (String × Value)
  | [] => [m]
  | n :: ns => if m.1 < n.1 then m :: n :: ns else n :: insertMember m ns

mutual

/-- The value with the members of all objects in ascending order. -/
def sorted : Value → Value
  | .array items => .array (sortedItems items)
  | .object members => .object (sortedMembers members)
  | v => v

def sortedItems : List Value → List Value
  | [] => []
  | v :: vs => sorted v :: sortedItems vs

def sortedMembers : List (String × Value) → List (String × Value)
  | [] => []
  | (name, v) :: members => insertMember (name, sorted v) (sortedMembers members)

end

def showJson (rows : List Value) : String :=
  Json.print (sorted (.array rows)) ++ "\n"

def optional {α : Type} (f : α → Value) : Option α → Value
  | some a => f a
  | none => .null

/-! ## Audits -/

/-- The result of an audit, with `reason` for why a text cannot be read. -/
def auditJson (reason : String) (a : DeviceAudit) : Value :=
  match a.result with
  | .ok o => .object [("device", .string a.device), ("outcome", .string o.name),
      ("discarded", .ofNat o.discarded), ("report", optional StoredReport.toJson o.report?)]
  | .error e => .object [("device", .string a.device), ("outcome", .string "error"),
      ("error", .string (e.message reason))]

def auditText (reason : String) (a : DeviceAudit) : String :=
  match a.result with
  | .ok o =>
    let title := a.device ++ " [" ++ o.name ++ "]"
    match o.report? with
    | some r => title ++ " " ++ r.generatedAt ++ "\n" ++ r.report.display
    | none => title ++ "\n"
  | .error e => a.device ++ " [error] " ++ e.message reason ++ "\n"

def showAudits (json : Bool) (reason : String) (audits : List DeviceAudit) : String :=
  if json then showJson (audits.map (auditJson reason))
  else String.join (audits.map (auditText reason))

/-! ## Status -/

/-- What is known of a device without scanning it. -/
structure DeviceStatus where
  device : String
  result : Except ScanError (Freshness × Option StoredReport)

namespace DeviceStatus

def isFailure (s : DeviceStatus) : Bool :=
  match s.result with
  | .ok _ => false
  | .error _ => true

end DeviceStatus

/-- The status of a newest report. -/
def statusName (report : Option StoredReport) : String :=
  match report with
  | some r => r.report.status.name
  | none => "none"

def statusJson (reason : String) (s : DeviceStatus) : Value :=
  match s.result with
  | .ok (freshness, report) => .object [("device", .string s.device),
      ("status", .string (statusName report)), ("freshness", .string freshness.name),
      ("generated_at", optional (.string ·.generatedAt) report)]
  | .error e => .object [("device", .string s.device), ("error", .string (e.message reason))]

/-- Fills a column with spaces. -/
def column (width : Nat) (text : String) : String :=
  text ++ String.ofList (List.replicate (width - text.length) ' ')

/-- A line of columns; a device whose status cannot be told has none. -/
def statusText (s : DeviceStatus) : String :=
  match s.result with
  | .ok (freshness, report) =>
    column 24 s.device ++ " " ++ column 14 (statusName report) ++ " " ++ column 10 freshness.name ++
      " " ++ ((report.map (·.generatedAt)).getD "-") ++ "\n"
  | .error _ => ""

def showStatus (json : Bool) (reason : String) (rows : List DeviceStatus) : String :=
  if json then showJson (rows.map (statusJson reason)) else String.join (rows.map statusText)

/-! ## Templates -/

/-- The name of an augmentation as a title. -/
def title : Augmentation → String
  | .els => "Els"
  | .nonEls => "NonEls"
  | .routing => "Routing"

def templateJson (reason : String) : Augmentation × Except CompileError Nat → Value
  | (a, .ok n) => .object [("augmentation", .string a.name), ("patterns", .ofNat n)]
  | (a, .error e) =>
    .object [("augmentation", .string a.name), ("error", .string (e.message reason))]

def templateText (reason : String) : Augmentation × Except CompileError Nat → String
  | (a, .ok n) => title a ++ ": ok (" ++ toString n ++ " mandatory patterns)\n"
  | (a, .error e) => title a ++ ": error: " ++ e.message reason ++ "\n"

def showTemplates (json : Bool) (reason : String)
    (results : List (Augmentation × Except CompileError Nat)) : String :=
  if json then showJson (results.map (templateJson reason))
  else String.join (results.map (templateText reason))

end Conformance.CommandLine
