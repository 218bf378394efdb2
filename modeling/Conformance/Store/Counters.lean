import Conformance.Catalog
import Conformance.Deviation.Report

/-!
# Counters

What is counted over the scans of a session. A counter exists once something has been added to it,
even if that was zero.
-/
namespace Conformance

inductive Metric where
  | scans (outcome : String) (status : Option AuditStatus)
  | missingLines
  | extraLines
  | compileFailures
  deriving DecidableEq, Repr

namespace Metric

def label (name value : String) : String :=
  name ++ "=\"" ++ value ++ "\""

/-- The name of the counter with its labels. -/
def name : Metric → String
  | scans outcome status =>
    "audit_scans_total\x7b" ++ label "outcome" outcome ++ "," ++
      label "status" ((status.map AuditStatus.name).getD "none") ++ "\x7d"
  | missingLines => "audit_deviation_lines_total\x7b" ++ label "kind" "missing" ++ "\x7d"
  | extraLines => "audit_deviation_lines_total\x7b" ++ label "kind" "extra" ++ "\x7d"
  | compileFailures => "audit_compile_failures_total"

end Metric

/-- An event: so much is to be added to a counter. -/
structure Count where
  metric : Metric
  amount : Nat
  deriving DecidableEq, Repr

abbrev Counters := Catalog Nat

namespace Counters

def value (c : Counters) (m : Metric) : Nat :=
  (c.get? m.name).getD 0

def add (c : Counters) (e : Count) : Counters :=
  c.insert e.metric.name (c.value e.metric + e.amount)

def addAll (c : Counters) (es : List Count) : Counters :=
  es.foldl add c

def display (c : Counters) : List String :=
  c.entries.map fun (name, n) => name ++ " " ++ toString n

end Counters
end Conformance
