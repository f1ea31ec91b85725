import RegionWiring.Fault
import RegionWiring.Files.Tree
import RegionWiring.Store.Locations

namespace RegionWiring

structure DataArea where
  root : Path
deriving DecidableEq

namespace DataArea

def pathOf (area : DataArea) (name : String) : Path := area.root.join (.ofString name)

def read (area : DataArea) (files : FileTree) (name : String) : Except Fault (Option String) :=
  (Reader.ifPresent files.read (area.pathOf name)).mapError fun fault => .io fault.message

-- The directory stays even if the document cannot take its place.
def write (area : DataArea) (obstacles : Obstacles) (files : FileTree) (name text : String) : FileTree × Except Fault Unit :=
  match files.makeAll obstacles area.root with
  | (made, .error fault) => (made, .error (.io fault.message))
  | (made, .ok ()) =>
      match made.stage obstacles area.root with
      | .error fault => (made, .error (.io fault.message))
      | .ok (tree, staged) =>
          let (settled, result) := tree.settle obstacles staged (area.pathOf name) text
          (settled, result.mapError fun fault => .io fault.message)

-- A missing document is the empty table.
def loadLocations (area : DataArea) (files : FileTree) : Except Fault LocationTable := do
  match ← area.read files LocationTable.documentName with
  | none => return .empty
  | some text =>
      match LocationTable.ofDocument text with
      | some table => return table
      | none => throw (.config (.persistence (LocationTable.documentName ++ " is not a valid document")))

def persistLocations (area : DataArea) (obstacles : Obstacles) (files : FileTree) (table : LocationTable) :
    FileTree × Except Fault Unit :=
  area.write obstacles files LocationTable.documentName table.document

end DataArea
end RegionWiring
