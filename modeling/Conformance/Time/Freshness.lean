import Conformance.Time.Moment

/-!
# Freshness

Whether a device's newest report still covers its newest snapshot.
-/
namespace Conformance

inductive Freshness where
  /-- There is no snapshot to report on. -/
  | noConfig
  | upToDate
  | stale
  deriving DecidableEq, Repr

namespace Freshness

def name : Freshness → String
  | noConfig => "no-config"
  | upToDate => "up-to-date"
  | stale => "stale"

/-- The freshness of a report at moment `report` of a snapshot at moment `snapshot`; with `force`,
any report is stale. -/
def evaluate (snapshot report : Option Moment) (force : Bool) : Freshness :=
  match snapshot with
  | none => noConfig
  | some s =>
    if force then stale
    else match report with
      | some r => if r.isBefore s then stale else upToDate
      | none => stale

end Freshness
end Conformance
