import RegionWiring.Identity
import RegionWiring.PropertyValue
import RegionWiring.Source.Basic

namespace RegionWiring

open Properties (Entry)

structure Contribution where
  identities : List (BundleIdentity × List BundleId)
  bundles : List (BundleId × List FeatureId)
  features : List (FeatureId × List Region)
  regions : List (Region × List PackageName)
deriving DecidableEq, Inhabited

abbrev Update := SortedTable PropertyValue

namespace Contribution

def empty : Contribution := ⟨[], [], [], []⟩

def typed {α β : Type} (key : String → α) (value : String → β) (entries : List Entry) : List (α × List β) :=
  entries.map fun entry => (key entry.key, entry.values.map value)

-- In a base file the key is the identity.
def baseIdentity (file : String) (entry : Entry) : Except Warning (BundleIdentity × List BundleId) :=
  match BundleIdentity.read entry.key with
  | .ok identity => .ok (identity, entry.values.map BundleId.mk)
  | .error fault => .error (.skippedIdentity file entry.line fault)

-- In an overlay the key is the bundle id.
def overlayIdentity (id : String) (entry : Entry) : Except Warning (BundleIdentity × List BundleId) :=
  match entry.values with
  | [value] =>
      match BundleIdentity.read value with
      | .ok identity => .ok (identity, [⟨entry.key⟩])
      | .error fault => .error (.skippedIdentity id entry.line fault)
  | values => .error (.wrongValueCount id entry.line entry.key values.length)

-- An absent or unreadable file contributes nothing.
def baseEntries (source : Source) (reader : Reader) (file : String) : Reported (List Entry) := do
  match ← source.read reader file with
  | .ok entries => return entries.getD []
  | .error fault => do
      Reported.warn (.unreadableFile file fault)
      return []

def ofSource (source : Source) (reader : Reader) : Reported Contribution := do
  let identities ← Reported.collect (baseIdentity BaseFile.identities) (← baseEntries source reader BaseFile.identities)
  let bundles ← baseEntries source reader BaseFile.bundles
  let features ← baseEntries source reader BaseFile.features
  let regions ← baseEntries source reader BaseFile.regions
  return ⟨identities, typed BundleId.mk FeatureId.mk bundles, typed FeatureId.mk Region.mk features,
    typed Region.mk PackageName.mk regions⟩

def readNumbered (id : String) (item : String × Nat) : Except Warning Entry :=
  (Entry.read id item.2 item.1.toList).mapError .skippedOverlayEntry

def overlayEntries (id : String) (update : Update) (key : String) : Reported (List Entry) :=
  match update.get? key with
  | none => pure []
  | some value => Reported.collect (readNumbered id) (value.entries.zipIdx 1)

def ofUpdate (id : String) (update : Update) : Reported Contribution := do
  let identities ← Reported.collect (overlayIdentity id) (← overlayEntries id update Key.bundleIdentities)
  let bundles ← overlayEntries id update Key.bundleFeatures
  let features ← overlayEntries id update Key.featureRegions
  let regions ← overlayEntries id update Key.regionPackages
  return ⟨identities, typed BundleId.mk FeatureId.mk bundles, typed FeatureId.mk Region.mk features,
    typed Region.mk PackageName.mk regions⟩

end Contribution
end RegionWiring
