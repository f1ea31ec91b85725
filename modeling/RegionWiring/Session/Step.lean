import RegionWiring.Resolver.Enforcer

namespace RegionWiring

structure RevisionText where
  text : String
  location : Option String

def RevisionText.read (r : RevisionText) : Except VersionFault BundleRevision :=
  (BundleRevision.read r.text).map (·.installedAt r.location)

structure RequirementText where
  namesp : String
  requirer : RevisionText
  package : Option String

structure CapabilityText where
  namesp : String
  provider : RevisionText
  package : Option String

def RequirementText.read (r : RequirementText) : Except VersionFault Requirement := do
  return ⟨r.namesp, ← r.requirer.read, r.package.map PackageName.mk⟩

def CapabilityText.read (c : CapabilityText) : Except VersionFault Capability := do
  return ⟨c.namesp, ← c.provider.read, c.package.map PackageName.mk⟩

-- Answered without any change.
inductive Question where
  | tables
  | tablesText
  | lookup (table key : String)
  | refusals (region : String)
  | overlayIds
  | description
  | held (name : String)
  | featuresAt (key : String)
  | hasLocation (key : String)
  | allLocations
  | fileText (path : String)
  | areaText (root name : String)
  | isEnabled
  | filterMatches (hook : String) (order : SetOrder) (requirement : RequirementText) (candidates : List CapabilityText)
  | filterResolvable (hook : String) (candidates : List RevisionText)
  | filterCollisions (hook : String) (singleton : RevisionText) (collisions : List RevisionText)

-- The enforcer keeps the policy from then on.
inductive PolicyQuestion where
  | policy
  | policyText
  | visibility (region package : String)
  | featuresOf (order : SetOrder) (revision : RevisionText)
  | regionsOf (features : List String)
  | evaluate (order : SetOrder) (requester provider : RevisionText) (package : String)

inductive Step where
  | ask (question : Question)
  | askPolicy (question : PolicyQuestion)
  | applyOverlay (id : String) (update : Update)
  | removeOverlay (id : String)
  | deleteOverlay (id : String)
  | hold (name : String)
  | addLocation (key feature : String)
  | replaceLocation (key : String) (features : List String)
  | removeLocation (key : String)
  | persist (obstacles : Obstacles)
  | reopen
  | putFile (path text : String)
  | putInArea (obstacles : Obstacles) (root name text : String)
  | switch (enabled : Bool)
  | manage (update : Option Update)
  | begin (hook : String) (triggers : List RevisionText)
  | finish (hook : String)

inductive StepFault where
  | fault (cause : Fault)
  | version (cause : VersionFault)
  | unknownTable (name : String)
  | unknownHook
  | unknownSnapshot
  | unwritable

inductive Answer where
  | done
  | flag (b : Bool)
  | text (s : String)
  | document (text : Option String)
  | names (items : List String)
  | tables (t : RegionTables)
  | found (values : Option (List String))
  | refused (faults : List Fault)
  | description (defaults joined : Members Region) (registration : Table String String)
  | held (snapshot : Snapshot) (current : Bool)
  | features (items : Option (List String))
  | locations (t : LocationTable)
  | policy (p : EffectivePolicy)
  | visibility (isGlobal exposed : Bool)
  | memberships (features : List FeatureId) (regions : List Region)
  | regions (items : List Region)
  | decision (d : WiringDecision) (requester : BundleRevision)
  | capabilities (items : List Capability)
  | revisions (items : List BundleRevision)

end RegionWiring
