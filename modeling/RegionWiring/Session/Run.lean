import RegionWiring.Collection.Published
import RegionWiring.Session.Step

namespace RegionWiring

structure Session where
  env : Environment
  embedded : EmbeddedDocuments
  area : Option DataArea
  files : FileTree
  store : Store
  enforcer : Enforcer
  locations : LocationTable
  -- Of earlier openings, the first one first.
  retired : List LocationTable
  hooks : Table String Hook
  held : Table String Snapshot

namespace Session

-- A document that cannot be loaded leaves the table empty.
def loadLocations (area : Option DataArea) (files : FileTree) : Reported LocationTable :=
  match area with
  | none => pure .empty
  | some area =>
      match area.loadLocations files with
      | .ok table => pure table
      | .error fault => do
          Reported.warn (.unreadableLocations fault)
          return .empty

def openStore (env : Environment) (embedded : EmbeddedDocuments) (area : Option DataArea) (files : FileTree) :
    Except ConfigFault (Reported (Store × LocationTable)) := do
  let source ← Source.ofEnvironment env embedded
  return do
    let store ← Store.ofSource source env files.read
    return (store, ← loadLocations area files)

def start (env : Environment) (embedded : EmbeddedDocuments) (area : Option DataArea) (files : FileTree) :
    Except ConfigFault (Reported Session) := do
  let opened ← openStore env embedded area files
  return do
    let (store, locations) ← opened
    return ⟨env, embedded, area, files, store, Enforcer.ofEnvironment env, locations, [], .empty, .empty⟩

def opening (s : Session) : Nat := s.retired.length

def locationsOf (s : Session) (opening : Nat) : LocationTable := (s.retired[opening]?).getD s.locations

def located (s : Session) (order : SetOrder) : Nat → Located := fun opening => (s.locationsOf opening).located order

def reopen (s : Session) : Reported (Session × Except StepFault Answer) :=
  match openStore s.env s.embedded s.area s.files with
  | .error cause => pure (s, .error (.fault (.config cause)))
  | .ok opened => do
      let (store, locations) ← opened
      let reopened := { s with
        store, locations, enforcer := Enforcer.ofEnvironment s.env, retired := s.retired ++ [s.locations] }
      return (reopened, .ok .done)

def policy (s : Session) : EffectivePolicy := s.enforcer.policy s.store

def asked (s : Session) : Session := { s with enforcer := s.enforcer.keep s.store }

def persist (s : Session) (obstacles : Obstacles) : Session × Except StepFault Answer :=
  match s.area with
  | none => (s, .error (.fault (.config (.persistence "no data area is configured"))))
  | some area =>
      match area.persistLocations obstacles s.files s.locations with
      | (files, .ok ()) => ({ s with files }, .ok .done)
      | (files, .error fault) => ({ s with files }, .error (.fault fault))

def refusals (t : RegionTables) (region : Region) : List Fault :=
  let onTables := [Mutation.insert, .remove, .clear, .insert, .remove]
  let onPackages := if t.regions.contains region then [Mutation.insert, .remove] else []
  let onIds := if t.identities.isEmpty then [] else [Mutation.push, .remove]
  (onTables ++ onPackages ++ onIds).map Mutation.refusal

def lookup (t : RegionTables) (table key : String) : Except StepFault Answer :=
  match table with
  | "bsnVer" =>
      match BundleIdentity.read key with
      | .error fault => .error (.version fault)
      | .ok identity => .ok (.found ((t.identities.get? identity).map (·.map BundleId.name)))
  | "bundleFeature" => .ok (.found ((t.bundles.get? ⟨key⟩).map (·.items.map FeatureId.name)))
  | "featureRegion" => .ok (.found ((t.features.get? ⟨key⟩).map (·.items.map Region.name)))
  | "regionPackage" => .ok (.found ((t.regions.get? ⟨key⟩).map (·.items.map PackageName.name)))
  | other => .error (.unknownTable other)

def membershipsOf (s : Session) (order : SetOrder) (r : BundleRevision) : Answer :=
  let features := s.policy.featuresOf (s.locations.located order) r
  .memberships features.items (s.policy.regionsOf features).items

def hookNamed (s : Session) (name : String) : Except StepFault Hook :=
  match s.hooks.get? name with
  | some hook => .ok hook
  | none => .error .unknownHook

def readRevisions (texts : List RevisionText) : Except StepFault (List BundleRevision) :=
  (texts.mapM RevisionText.read).mapError .version

def readRevision (text : RevisionText) : Except StepFault BundleRevision := text.read.mapError .version

-- The requirement is read first, then the candidates; then the hook is looked up.
def filterMatches (s : Session) (hook : String) (order : SetOrder) (r : RequirementText) (candidates : List CapabilityText) :
    Except StepFault Answer := do
  let requirement ← r.read.mapError StepFault.version
  let capabilities ← (candidates.mapM CapabilityText.read).mapError StepFault.version
  let hook ← s.hookNamed hook
  return .capabilities (hook.filterMatches (s.located order) requirement capabilities)

def filterResolvable (s : Session) (hook : String) (candidates : List RevisionText) : Except StepFault Answer := do
  let revisions ← readRevisions candidates
  let hook ← s.hookNamed hook
  return .revisions (hook.filterResolvable revisions)

-- Here the hook is looked up first.
def filterCollisions (s : Session) (hook : String) (singleton : RevisionText) (collisions : List RevisionText) : Except StepFault Answer := do
  let revisions ← readRevisions collisions
  let hook ← s.hookNamed hook
  let singleton ← readRevision singleton
  return .revisions (hook.filterCollisions singleton revisions)

def begin (s : Session) (name : String) : Session :=
  { s with
    hooks := s.hooks.insert name (s.enforcer.hook s.store s.opening)
    enforcer := s.enforcer.afterBegin s.store }

def ask (s : Session) : Question → Except StepFault Answer
  | .tables => .ok (.tables s.store.tables)
  | .tablesText => .ok (.text s.store.tables.form.compact)
  | .lookup table key => lookup s.store.tables table key
  | .refusals region => .ok (.refused (refusals s.store.tables ⟨region⟩))
  | .overlayIds => .ok (.names s.store.overlayIds)
  | .description => .ok (.description s.store.defaultRegions s.store.joinedRegions s.store.registration)
  | .held name =>
      match s.held.get? name with
      | some snapshot => .ok (.held snapshot (snapshot.tables == s.store.tables))
      | none => .error .unknownSnapshot
  | .featuresAt key => .ok (.features ((s.locations.get? key).map SortedSet.items))
  | .hasLocation key => .ok (.flag (s.locations.contains key))
  | .allLocations => .ok (.locations s.locations)
  | .fileText path => .ok (.document (s.files.read (.ofString path)).toOption)
  | .areaText root name => (((DataArea.mk (.ofString root)).read s.files name).map .document).mapError .fault
  | .isEnabled => .ok (.flag s.enforcer.enabled)
  | .filterMatches hook order requirement candidates => s.filterMatches hook order requirement candidates
  | .filterResolvable hook candidates => s.filterResolvable hook candidates
  | .filterCollisions hook singleton collisions => s.filterCollisions hook singleton collisions

def askPolicy (s : Session) : PolicyQuestion → Except StepFault Answer
  | .policy => .ok (.policy s.policy)
  | .policyText => .ok (.text s.policy.form.compact)
  | .visibility region package =>
      .ok (.visibility (s.policy.isGlobalPackage ⟨package⟩) (s.policy.exposes ⟨region⟩ ⟨package⟩))
  | .featuresOf order revision => (readRevision revision).map (s.membershipsOf order)
  | .regionsOf features => .ok (.regions (s.policy.regionsOf (Members.ofList (features.map FeatureId.mk))).items)
  | .evaluate order requester provider package => do
      let requester ← readRevision requester
      let provider ← readRevision provider
      return .decision (s.policy.evaluate (s.locations.located order) requester provider ⟨package⟩) requester

def changeLocations (s : Session) (change : LocationTable → LocationTable × Answer) : Session × Except StepFault Answer :=
  let (locations, answer) := change s.locations
  ({ s with locations }, .ok answer)

def putFile (s : Session) (path text : String) : Session × Except StepFault Answer :=
  match s.files.write (.ofString path) (.text text) with
  | .ok files => ({ s with files }, .ok .done)
  | .error _ => (s, .error .unwritable)

def putInArea (s : Session) (obstacles : Obstacles) (root name text : String) : Session × Except StepFault Answer :=
  match (DataArea.mk (.ofString root)).write obstacles s.files name text with
  | (files, .ok ()) => ({ s with files }, .ok .done)
  | (files, .error fault) => ({ s with files }, .error (.fault fault))

def beginAfter (s : Session) (hook : String) (triggers : List RevisionText) : Session × Except StepFault Answer :=
  match readRevisions triggers with
  | .ok _ => (s.begin hook, .ok .done)
  | .error fault => (s, .error fault)

def finish (s : Session) (hook : String) : Session × Except StepFault Answer :=
  if s.hooks.contains hook then ({ s with hooks := s.hooks.erase hook }, .ok .done) else (s, .error .unknownHook)

def step (s : Session) : Step → Reported (Session × Except StepFault Answer)
  | .ask question => pure (s, s.ask question)
  | .askPolicy question => pure (s.asked, s.askPolicy question)
  | .applyOverlay id update => do
      let store ← s.store.applyOverlay id update
      return ({ s with store }, .ok .done)
  | .removeOverlay id =>
      let (store, active) := s.store.removeOverlay id
      pure ({ s with store }, .ok (.flag active))
  | .deleteOverlay id => pure ({ s with store := (s.store.removeOverlay id).1 }, .ok .done)
  | .hold name => pure ({ s with held := s.held.insert name s.store.snapshot }, .ok .done)
  | .addLocation key feature =>
      pure (s.changeLocations fun t => let (t, isNew) := t.add key feature; (t, .flag isNew))
  | .replaceLocation key features =>
      pure (s.changeLocations fun t => let (t, before) := t.replace key features; (t, .features (before.map SortedSet.items)))
  | .removeLocation key =>
      pure (s.changeLocations fun t => let (t, before) := t.remove key; (t, .features (before.map SortedSet.items)))
  | .persist obstacles => pure (s.persist obstacles)
  | .reopen => s.reopen
  | .putFile path text => pure (s.putFile path text)
  | .putInArea obstacles root name text => pure (s.putInArea obstacles root name text)
  | .switch enabled => pure ({ s with enforcer := s.enforcer.switch enabled }, .ok (.flag enabled))
  | .manage update =>
      let enforcer := s.enforcer.manage update
      pure ({ s with enforcer }, .ok (.flag enforcer.enabled))
  | .begin hook triggers => pure (s.beginAfter hook triggers)
  | .finish hook => pure (s.finish hook)

end Session
end RegionWiring
