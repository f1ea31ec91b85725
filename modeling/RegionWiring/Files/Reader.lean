import RegionWiring.Files.Path

namespace RegionWiring

abbrev Reader := Path → Except FileFault String

namespace Reader

-- A missing document is no failure.
def ifPresent (read : Reader) (p : Path) : Except FileFault (Option String) :=
  match read p with
  | .ok s => .ok (some s)
  | .error .missing => .ok none
  | .error fault => .error fault

def ofList (items : List (Path × Except FileFault String)) : Reader := fun p =>
  match items.find? (·.1 == p) with
  | some item => item.2
  | none => .error .missing

end Reader
end RegionWiring
