import RegionWiring.Files.Fault

namespace RegionWiring

abbrev FileName := List UInt8

namespace FileName

def slash : UInt8 := 47

def here : FileName := [46]

def up : FileName := [46, 46]

def isPlain (name : FileName) : Bool := name != here && name != up

-- A name has at most 255 bytes.
def tooLong (name : FileName) : Bool := name.length > 255

end FileName

structure Path where
  bytes : List UInt8
deriving DecidableEq, Inhabited

namespace Path

def ofString (s : String) : Path := ⟨s.toList.flatMap String.utf8EncodeChar⟩

def isAbsolute (p : Path) : Bool := p.bytes.head? == some FileName.slash

def steps (p : Path) : List FileName := (p.bytes.splitOn FileName.slash).filter (· ≠ [])

def wantsDirectory (p : Path) : Bool := p.bytes.getLast? == some FileName.slash

-- Refused before any directory is looked at.
def defect? (p : Path) : Option FileFault :=
  if p.bytes.contains 0 then some .nulInPath
  else if p.bytes = [] then some .missing
  else if p.bytes.length ≥ 4096 then some .nameTooLong
  else none

-- An absolute name leads away from the directory.
def join (directory name : Path) : Path :=
  if name.isAbsolute || directory.bytes = [] then name
  else if directory.wantsDirectory then ⟨directory.bytes ++ name.bytes⟩
  else ⟨directory.bytes ++ FileName.slash :: name.bytes⟩

-- The steps to the directories above, without idle ones behind the first.
def spine (p : Path) : List FileName :=
  match p.steps with
  | [] => []
  | first :: rest =>
      let rest := rest.filter (· ≠ FileName.here)
      if p.isAbsolute && first = FileName.here then rest else first :: rest

def ofSpine (absolute : Bool) (steps : List FileName) : Path :=
  let relative := List.intercalate [FileName.slash] steps
  ⟨if absolute then FileName.slash :: relative else relative⟩

end Path
end RegionWiring
