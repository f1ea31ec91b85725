import RegionWiring.CommandLine.Arguments
import RegionWiring.Environment
import RegionWiring.Fault
import RegionWiring.Files.Reader
import RegionWiring.Toml.Display
import RegionWiring.Toml.Document

namespace RegionWiring.CommandLine

mutual
-- Items of arrays are joined by commas at any depth.
def scalarText : Toml → String
  | .text s => s
  | .array items => String.intercalate "," (scalarTexts items)
  | v => v.display
def scalarTexts : List Toml → List String
  | [] => []
  | item :: rest => scalarText item :: scalarTexts rest
end

def keyUnder (path key : String) : String := if path = "" then key else path ++ "." ++ key

mutual
def flattenValue (settings : Settings) (name : String) : Toml → Settings
  | .table entries => flattenEntries settings name entries
  | v => settings.insert name (scalarText v)
-- Later entries overwrite earlier ones.
def flattenEntries (settings : Settings) (path : String) : List (String × Toml) → Settings
  | [] => settings
  | (key, value) :: rest => flattenEntries (flattenValue settings (keyUnder path key) value) path rest
end

def flatten (entries : Toml.Entries) : Settings := flattenEntries .empty "" entries

inductive CommandFault where
  | unreadableProperties (path : String) (fault : FileFault)
  | malformedProperties (path : String)
  | invalidBundle (text : String) (fault : VersionFault)
  | configuration (cause : ConfigFault)
deriving DecidableEq

def CommandFault.message : CommandFault → String
  | .unreadableProperties path fault => "Failed to read properties file " ++ path ++ ": " ++ fault.message
  | .malformedProperties path => "Failed to parse properties file " ++ path
  | .invalidBundle text fault => "Invalid bundle '" ++ text ++ "', expected symbolicName~version: " ++ fault.message
  | .configuration cause =>
      "Failed to load the region configuration: " ++ (Fault.config cause).message ++ ": " ++ cause.message

def readProperties (reader : Reader) (path : String) : Except CommandFault Settings :=
  match reader (.ofString path) with
  | .error fault => .error (.unreadableProperties path fault)
  | .ok text =>
      match Toml.read text with
      | some entries => .ok (flatten entries)
      | none => .error (.malformedProperties path)

def overlay (settings : Settings) (key : String) : Option String → Settings
  | some value => settings.insert key value
  | none => settings

def layered (options : EngineOptions) (file : Settings) : Settings :=
  let settings := overlay file Key.location options.location
  let settings := overlay settings Key.defaults options.defaultRegions
  let settings := overlay settings Key.joinGlobal options.joinGlobal
  if settings.contains Key.regions then settings else settings.insert Key.regions "*"

def fileSettings (options : EngineOptions) (reader : Reader) : Except CommandFault Settings :=
  match options.properties with
  | some path => readProperties reader path
  | none => .ok .empty

def environmentOf (options : EngineOptions) (reader : Reader) (process : String → Option String) :
    Except CommandFault Environment := do
  let file ← fileSettings options reader
  return (layered options file).environment.orElse (.ofVariables process)

end RegionWiring.CommandLine
