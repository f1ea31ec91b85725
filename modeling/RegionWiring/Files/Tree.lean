import RegionWiring.Files.Reader
import RegionWiring.Collection.Table

namespace RegionWiring

inductive Content where
  | text (s : String)
  | undecodable
deriving DecidableEq, Inhabited

def Content.ofBytes (bytes : List UInt8) : Content :=
  match String.fromUTF8? bytes.toByteArray with
  | some s => .text s
  | none => .undecodable

-- What goes wrong while a document is written.
structure Obstacles where
  directory : Path → Option FileFault := fun _ => none
  creating : Option FileFault := none
  filling : Option FileFault := none
  flushing : Option FileFault := none
  moving : Option FileFault := none
  -- Whether the staged file stays behind, and what it holds then.
  stays : Bool := false
  part : Content := .text ""
  -- What the name of the staged file is made from.
  tag : Fin 6 → Fin 62 := fun _ => 0

namespace Obstacles

def letter (i : Fin 62) : UInt8 := (if i < 10 then 48 else if i < 36 then 55 else 61) + .ofNat i

def stagedName (obstacles : Obstacles) : FileName := [46, 116, 109, 112] ++ List.ofFn fun i => letter (obstacles.tag i)

end Obstacles

abbrev Place := List FileName

inductive Node where
  | directory
  | file (content : Content)
deriving DecidableEq

structure FileTree where
  nodes : Table Place Node
  home : Place

namespace FileTree

-- The top is always a directory.
def at? (tree : FileTree) (place : Place) : Option Node := if place = [] then some .directory else tree.nodes.get? place

def isDirectoryAt (tree : FileTree) (place : Place) : Bool := tree.at? place == some .directory

def put (tree : FileTree) (place : Place) (node : Node) : FileTree := { tree with nodes := tree.nodes.insert place node }

def remove (tree : FileTree) (place : Place) : FileTree := { tree with nodes := tree.nodes.erase place }

def start (tree : FileTree) (p : Path) : Place := if p.isAbsolute then [] else tree.home

def enter (tree : FileTree) (place : Place) (name : FileName) : Except FileFault Place :=
  if !tree.isDirectoryAt place then .error .notDirectory
  else if name = FileName.here then .ok place
  else if name = FileName.up then .ok place.dropLast
  else if name.tooLong then .error .nameTooLong
  else if (tree.at? (place ++ [name])).isNone then .error .missing
  else .ok (place ++ [name])

def walk (tree : FileTree) (place : Place) : List FileName → Except FileFault Place
  | [] => .ok place
  | name :: rest => (tree.enter place name).bind fun next => walk tree next rest

def resolve (tree : FileTree) (p : Path) : Except FileFault Place :=
  match p.defect? with
  | some fault => .error fault
  | none => do
      let place ← tree.walk (tree.start p) p.steps
      if p.wantsDirectory && !tree.isDirectoryAt place then .error .notDirectory else .ok place

def isDirectory (tree : FileTree) (p : Path) : Bool :=
  match tree.resolve p with
  | .ok place => tree.isDirectoryAt place
  | .error _ => false

def read (tree : FileTree) : Reader := fun p => do
  let place ← tree.resolve p
  match tree.at? place with
  | some (.file (.text s)) => .ok s
  | some (.file .undecodable) => .error .undecodable
  | some .directory => .error .isDirectory
  | none => .error .missing

def parentOf (tree : FileTree) (p : Path) : Except FileFault (Place × Option FileName) :=
  match p.defect? with
  | some fault => .error fault
  | none => do
      let place ← tree.walk (tree.start p) p.steps.dropLast
      if tree.isDirectoryAt place then .ok (place, p.steps.getLast?) else .error .notDirectory

def makeDirectory (tree : FileTree) (p : Path) : Except FileFault FileTree := do
  let (place, last) ← tree.parentOf p
  match last with
  | none => .error .exists
  | some name =>
      if !name.isPlain then .error .exists
      else if name.tooLong then .error .nameTooLong
      else if (tree.at? (place ++ [name])).isSome then .error .exists
      else .ok (tree.put (place ++ [name]) .directory)

-- An existing directory will do.
def ensureDirectory (tree : FileTree) (obstacles : Obstacles) (p : Path) : FileTree × Except FileFault Unit :=
  match obstacles.directory p with
  | some fault => (tree, .error fault)
  | none =>
      match tree.makeDirectory p with
      | .ok made => (made, .ok ())
      | .error fault => (tree, if tree.isDirectory p then .ok () else .error fault)

-- The spine is given from its end. Missing directories above are made first, and stay even if a later step fails.
def makeSpine (tree : FileTree) (obstacles : Obstacles) (absolute : Bool) : List FileName → FileTree × Except FileFault Unit
  | [] => (tree, .ok ())
  | last :: above =>
      let p := Path.ofSpine absolute (last :: above).reverse
      match tree.ensureDirectory obstacles p with
      | (made, .error .missing) =>
          match made.makeSpine obstacles absolute above with
          | (made, .ok ()) => made.ensureDirectory obstacles p
          | failed => failed
      | done => done

def makeAll (tree : FileTree) (obstacles : Obstacles) (p : Path) : FileTree × Except FileFault Unit :=
  if p.spine = [] then (tree, .ok ())
  else
    match tree.ensureDirectory obstacles p with
    | (made, .error .missing) =>
        match made.makeSpine obstacles p.isAbsolute p.spine.reverse.tail with
        | (made, .ok ()) => made.ensureDirectory obstacles p
        | failed => failed
    | done => done

def write (tree : FileTree) (p : Path) (content : Content) : Except FileFault FileTree := do
  let (place, last) ← tree.parentOf p
  match last with
  | none => .error .isDirectory
  | some name =>
      if !name.isPlain || p.wantsDirectory then .error .isDirectory
      else if name.tooLong then .error .nameTooLong
      else if tree.isDirectoryAt (place ++ [name]) then .error .isDirectory
      else .ok (tree.put (place ++ [name]) (.file content))

def createFile (tree : FileTree) (p : Path) : Except FileFault (FileTree × Place) := do
  let (place, last) ← tree.parentOf p
  match last with
  | none => .error .exists
  | some name =>
      if !name.isPlain || p.wantsDirectory then .error .isDirectory
      else if name.tooLong then .error .nameTooLong
      else if (tree.at? (place ++ [name])).isSome then .error .exists
      else .ok (tree.put (place ++ [name]) (.file (.text "")), place ++ [name])

-- Replaces a file, but no directory.
def publish (tree : FileTree) (staged : Place) (p : Path) (content : Content) : Except FileFault FileTree := do
  let (place, last) ← tree.parentOf p
  match last with
  | none => .error .busy
  | some name =>
      if !name.isPlain then .error .busy
      else if name.tooLong then .error .nameTooLong
      else if p.wantsDirectory then .error .notDirectory
      else if (place ++ [name]).isPrefixOf staged.dropLast then .error .notEmpty
      else if tree.isDirectoryAt (place ++ [name]) then .error .isDirectory
      else .ok ((tree.remove staged).put (place ++ [name]) (.file content))

def stage (tree : FileTree) (obstacles : Obstacles) (directory : Path) : Except FileFault (FileTree × Place) :=
  match obstacles.creating with
  | some fault => .error fault
  | none => tree.createFile (directory.join ⟨obstacles.stagedName⟩)

def giveUp (tree : FileTree) (obstacles : Obstacles) (staged : Place) : FileTree :=
  if obstacles.stays then tree.put staged (.file obstacles.part) else tree.remove staged

def settle (tree : FileTree) (obstacles : Obstacles) (staged : Place) (p : Path) (text : String) : FileTree × Except FileFault Unit :=
  let refusal := obstacles.filling.or (obstacles.flushing.or obstacles.moving)
  let filled := tree.put staged (.file (.text text))
  match refusal.elim (filled.publish staged p (.text text)) .error with
  | .ok published => (published, .ok ())
  | .error fault => (tree.giveUp obstacles staged, .error fault)

def withHome (home : Place) : FileTree :=
  ⟨Table.ofList ((List.range (home.length + 1)).map fun n => (home.take n, Node.directory)), home⟩

-- Without content, an empty directory.
def plant (tree : FileTree) (p : Path) : Option Content → FileTree
  | none => (tree.makeAll {} p).1
  | some content =>
      let above := (tree.makeSpine {} p.isAbsolute p.spine.reverse.tail).1
      match above.write p content with
      | .ok planted => planted
      | .error _ => above

end FileTree
end RegionWiring
