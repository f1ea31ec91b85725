import RegionWiring.Environment
import RegionWiring.Files.Reader
import RegionWiring.Location.Basic
import RegionWiring.Properties.Document
import RegionWiring.Source.Embedded

namespace RegionWiring

namespace BaseFile
def identities : String := "idbsnver.properties"
def bundles : String := "bundles.properties"
def features : String := "features.properties"
def regions : String := "regions.properties"

def all : List String := [identities, bundles, features, regions]
end BaseFile

structure Source where
  locations : Table String String
  embedded : EmbeddedDocuments

namespace Source

-- A blank setting counts as none.
def setting (env : Environment) (key : String) : Option String :=
  ((env key).map Text.trimmed).filter (· ≠ "")

def under (directory file : String) : String :=
  if directory.toList.getLast? = some '/' then directory ++ file else directory ++ "/" ++ file

def locationOf (env : Environment) (file : String) : Option String :=
  (setting env (Key.resourceStem ++ file)).or ((setting env Key.location).map (under · file))

def locationsOf (env : Environment) : Table String String :=
  Table.ofList (BaseFile.all.filterMap fun file => (locationOf env file).map (file, ·))

def ofEnvironment (env : Environment) (embedded : EmbeddedDocuments) : Except ConfigFault Source :=
  let locations := locationsOf env
  if locations.isEmpty then .error (.noConfiguration Key.location Key.resourceStem)
  else .ok ⟨locations, embedded⟩

def ofLocations (locations : List (String × String)) (embedded : EmbeddedDocuments) : Source :=
  ⟨Table.ofList locations, embedded⟩

def location? (source : Source) (file : String) : Option String := source.locations.get? file

def textAt (source : Source) (reader : Reader) (location : String) : Except Fault (Option String) :=
  match Location.read location with
  | .error cause => .error (.config cause)
  | .ok (.embedded path) => .ok (source.embedded.get? path)
  | .ok (.file path) => (reader.ifPresent path).mapError fun fault => .io fault.message

def textOf (source : Source) (reader : Reader) (file : String) : Except Fault (Option String) :=
  match source.location? file with
  | none => .ok none
  | some location => source.textAt reader location

def paths (source : Source) : List Path :=
  source.locations.values.filterMap fun location =>
    match Location.read location with
    | .ok (.file path) => some path
    | _ => none

def read (source : Source) (reader : Reader) (file : String) : Reported (Except Fault (Option (List Properties.Entry))) :=
  match source.textOf reader file with
  | .error fault => pure (.error fault)
  | .ok none => pure (.ok none)
  | .ok (some text) => do return .ok (some (← Properties.readDocument file text))

end Source
end RegionWiring
