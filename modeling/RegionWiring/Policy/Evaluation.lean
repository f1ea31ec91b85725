import RegionWiring.Policy.Effective
import RegionWiring.Wiring.Decision

namespace RegionWiring
namespace EffectivePolicy

def bundleIds (p : EffectivePolicy) (r : BundleRevision) : List BundleId :=
  (p.tables.identities.get? r.identity).getD [] ++ [r.bundleId]

def bundleFeatures (p : EffectivePolicy) (id : BundleId) : List FeatureId :=
  match p.tables.bundles.get? id with
  | some features => features.items
  | none => []

def locationFeatures (located : Located) (r : BundleRevision) : List FeatureId :=
  match r.location with
  | some location => (located location).map FeatureId.mk
  | none => []

def featuresOf (p : EffectivePolicy) (located : Located) (r : BundleRevision) : Members FeatureId :=
  Members.ofList ((p.bundleIds r).flatMap p.bundleFeatures ++ locationFeatures located r)

def featureRegions (p : EffectivePolicy) (f : FeatureId) : List Region :=
  match p.tables.features.get? f with
  | some regions => regions.items
  | none => p.defaultRegions.items

def regionsOf (p : EffectivePolicy) (features : Members FeatureId) : Members Region :=
  Members.ofList (features.items.flatMap p.featureRegions)

def sharedRegion? (p : EffectivePolicy) (requester exporter : Members Region) (package : PackageName) : Option Region :=
  requester.items.find? fun region => exporter.contains region && p.exposes region package

def verdict (p : EffectivePolicy) (requester exporter : Members FeatureId) (package : PackageName) : Verdict :=
  if requester.isEmpty then .requesterUnrestricted
  else if p.isGlobalPackage package then .globalPackage
  else if exporter.isEmpty then .exporterUnrestricted
  else
    match p.sharedRegion? (p.regionsOf requester) (p.regionsOf exporter) package with
    | some region => .sharedRegion region
    | none => .rejected

def evaluate (p : EffectivePolicy) (located : Located) (requester provider : BundleRevision) (package : PackageName) :
    WiringDecision :=
  let requesterFeatures := p.featuresOf located requester
  let providerFeatures := p.featuresOf located provider
  ⟨package, (p.regionsOf requesterFeatures).items, (p.regionsOf providerFeatures).items,
    p.verdict requesterFeatures providerFeatures package⟩

-- A capability without a package is kept.
def keeps (p : EffectivePolicy) (located : Located) (r : Requirement) (c : Capability) : Bool :=
  match c.packageFor r with
  | none => true
  | some package => (p.evaluate located r.requirer c.provider package).accepted

-- Only package requirements are filtered.
def filterMatches (p : EffectivePolicy) (located : Located) (r : Requirement) (candidates : List Capability) : List Capability :=
  if r.isPackage then candidates.filter (p.keeps located r) else candidates

end EffectivePolicy
end RegionWiring
