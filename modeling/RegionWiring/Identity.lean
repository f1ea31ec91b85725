import RegionWiring.Version

namespace RegionWiring

structure FeatureId where
  name : String
deriving DecidableEq, Inhabited

structure BundleId where
  name : String
deriving DecidableEq, Inhabited

structure Region where
  name : String
deriving DecidableEq, Inhabited

structure PackageName where
  name : String
deriving DecidableEq, Inhabited

instance : Ord FeatureId := ⟨fun a b => compare a.name b.name⟩

def Region.global : Region := ⟨"global"⟩

def Region.isGlobal (r : Region) : Bool := r == Region.global

structure BundleIdentity where
  symbolicName : String
  version : Version
deriving DecidableEq, Inhabited

namespace BundleIdentity

-- Splits at the first `~`. A fault quotes the trimmed version alone.
def read (s : String) : Except VersionFault BundleIdentity :=
  match Text.cut '~' s.toList with
  | none => .error ⟨s, .missingSeparator⟩
  | some (before, after) =>
      let name := Text.trim before
      if name = [] then .error ⟨s, .emptySymbolicName⟩
      else do
        let version ← Version.read (String.ofList (Text.trim after))
        return ⟨String.ofList name, version⟩

def render (b : BundleIdentity) : String := b.symbolicName ++ "~" ++ b.version.render

def bundleId (b : BundleIdentity) : BundleId := ⟨b.symbolicName ++ ":" ++ b.version.render⟩

instance : Ord BundleIdentity where
  compare a b := (compare a.symbolicName b.symbolicName).then (compare a.version b.version)

end BundleIdentity

structure BundleRevision where
  identity : BundleIdentity
  location : Option String
deriving DecidableEq, Inhabited

namespace BundleRevision

def read (s : String) : Except VersionFault BundleRevision := do
  let identity ← BundleIdentity.read s
  return ⟨identity, none⟩

def installedAt (r : BundleRevision) (location : Option String) : BundleRevision := { r with location }

def render (r : BundleRevision) : String := r.identity.render

def bundleId (r : BundleRevision) : BundleId := r.identity.bundleId

end BundleRevision
end RegionWiring
