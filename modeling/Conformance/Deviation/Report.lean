/-!
# Deviation reports

What an audit finds: template lines that no configuration line satisfies, and configuration lines
that no template explains.
-/
namespace Conformance

inductive AuditStatus where
  | clean
  | extraOnly
  | missingOnly
  | both
  deriving DecidableEq, Repr

namespace AuditStatus

def ofCounts (missing extra : Nat) : AuditStatus :=
  match decide (0 < missing), decide (0 < extra) with
  | false, false => clean
  | false, true => extraOnly
  | true, false => missingOnly
  | true, true => both

def all : List AuditStatus :=
  [clean, extraOnly, missingOnly, both]

def name : AuditStatus → String
  | clean => "clean"
  | extraOnly => "extra-only"
  | missingOnly => "missing-only"
  | both => "both"

def ofName? (name : String) : Option AuditStatus :=
  all.find? (·.name == name)

end AuditStatus

structure DeviationReport where
  missing : List String
  extra : List String
  status : AuditStatus
  deriving DecidableEq, Repr

namespace DeviationReport

/-- The report of these lines, with the status they imply. -/
def ofLines (missing extra : List String) : DeviationReport :=
  ⟨missing, extra, .ofCounts missing.length extra.length⟩

def isClean (r : DeviationReport) : Bool :=
  r.status == .clean

theorem isClean_ofLines (missing extra : List String) :
    (ofLines missing extra).isClean = true ↔ missing = [] ∧ extra = [] := by
  cases missing <;> cases extra <;> simp [isClean, ofLines, AuditStatus.ofCounts]

def listing (title sign : String) (lines : List String) : String :=
  if lines.isEmpty then ""
  else title ++ " (" ++ toString lines.length ++ "):\n" ++
    String.join (lines.map fun line => "  " ++ sign ++ " " ++ line ++ "\n")

/-- The report as text for people. -/
def display (r : DeviationReport) : String :=
  "status: " ++ r.status.name ++ "\n" ++ listing "missing" "-" r.missing ++
    listing "extra" "+" r.extra

end DeviationReport
end Conformance
