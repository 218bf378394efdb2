import Conformance.Refresh

/-!
# Fleets

Scans of many devices. Scans of one device follow each other in the order asked for; scans of
different devices touch different parts of the store, so the results are those of scanning one
device after the other. Only so many scans run at the same time.
-/
namespace Conformance

namespace Fleet

/-- How many permits there are; a limit of zero is treated as one. -/
def permits (limit : Nat) : Nat :=
  max 1 limit

/-- No more permits can be kept count of: an eighth of the numbers of 64 bits. -/
def mostPermits : Nat :=
  (Nat.pow 2 64 - 1) >>> 3

/-- Whether there can be a fleet with this limit. -/
def admits (limit : Nat) : Bool :=
  permits limit ≤ mostPermits

end Fleet

/-- The result of scanning one device. -/
structure DeviceAudit where
  device : String
  result : Except ScanError Outcome

namespace DeviceAudit

def isFailure (a : DeviceAudit) : Bool :=
  match a.result with
  | .ok _ => false
  | .error _ => true

end DeviceAudit

namespace Auditor
variable {σ : Type}

/-- Scans the devices in order. -/
def scanAll (a : Auditor) (store : Store σ) (now : Moment) (force : Bool) :
    List Device → σ → List DeviceAudit × σ
  | [], s => ([], s)
  | device :: devices, s =>
    let (result, s, _) := (a.scan now device force).run.run store s
    let (audits, s) := a.scanAll store now force devices s
    (⟨device.name, result⟩ :: audits, s)

end Auditor
end Conformance
