import RegionWiring.Collection.Sorted
import RegionWiring.Text.Pieces

namespace RegionWiring

abbrev Environment := String → Option String

namespace Environment

def listProperty (env : Environment) (key : String) : List String :=
  match env key with
  | some value => Text.splitList value
  | none => []

def orElse (first second : Environment) : Environment := fun key => (first key).or (second key)

def upperChar (c : Char) : Char := if c.isAlphanum then c.toUpper else '_'

def variableName (key : String) : String := String.ofList (key.toList.map upperChar)

def ofVariables (process : String → Option String) : Environment := fun key => process (variableName key)

end Environment

abbrev Settings := SortedTable String

def Settings.environment (s : Settings) : Environment := s.get?

namespace Key
def regions : String := "apiregions.regions"
def location : String := "apiregions.location"
def resourceStem : String := "apiregions.resource."
def defaults : String := "apiregions.default"
def joinGlobal : String := "apiregions.joinglobal"
def bundleIdentities : String := "mapping.bundleid.bsnver"
def bundleFeatures : String := "mapping.bundleid.features"
def featureRegions : String := "mapping.featureid.regions"
def regionPackages : String := "mapping.region.packages"
def disable : String := "disable"
end Key

end RegionWiring
