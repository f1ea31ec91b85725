import RegionWiring.Wiring.Basic
import RegionWiring.Fault

namespace RegionWiring

inductive Verdict where
  | requesterUnrestricted
  | exporterUnrestricted
  | globalPackage
  | sharedRegion (region : Region)
  | rejected
deriving DecidableEq

def Verdict.accepted : Verdict → Bool
  | .rejected => false
  | _ => true

def Verdict.describe : Verdict → String
  | .requesterUnrestricted => "accepted (requester has no feature)"
  | .exporterUnrestricted => "accepted (exporter has no feature)"
  | .globalPackage => "accepted (global package)"
  | .sharedRegion region => "accepted (shared region " ++ region.name ++ ")"
  | .rejected => "rejected"

structure WiringDecision where
  package : PackageName
  requesterRegions : List Region
  exporterRegions : List Region
  verdict : Verdict
deriving DecidableEq

namespace WiringDecision

def accepted (d : WiringDecision) : Bool := d.verdict.accepted

def rejectionReason (d : WiringDecision) : String :=
  if d.exporterRegions = [] then "the exporter belongs to no region"
  else "no region shared with the exporter (" ++ String.intercalate ", " (d.exporterRegions.map Region.name) ++ ") exposes it"

def violation? (d : WiringDecision) (requester : BundleRevision) : Option Violation :=
  if d.accepted then none else some ⟨d.package.name, requester.render, d.rejectionReason⟩

end WiringDecision
end RegionWiring
