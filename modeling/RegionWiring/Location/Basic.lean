import RegionWiring.Location.Url
import RegionWiring.Fault

namespace RegionWiring

inductive Location where
  | embedded (path : String)
  | file (path : Path)
deriving DecidableEq

namespace Location

def embeddedScheme : List Char := "classloader://".toList

def filePath? (s : String) : Option Path :=
  match Url.read s with
  | some (.file none path) => some path
  | some (.file (some _) _) => none
  | some (.other scheme) => if scheme.length > 1 then none else some (Path.ofString s)
  | none => some (Path.ofString s)

def read (s : String) : Except ConfigFault Location :=
  if embeddedScheme.isPrefixOf s.toList then .ok (.embedded (String.ofList (s.toList.drop embeddedScheme.length)))
  else
    match filePath? s with
    | some path => .ok (.file path)
    | none => .error (.unsupportedLocation s)

end Location
end RegionWiring
