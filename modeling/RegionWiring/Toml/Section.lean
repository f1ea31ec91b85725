import RegionWiring.Toml.Value

namespace RegionWiring.Toml

inductive Node where
  | leaf (value : Toml)
  | table (implied dotted : Bool) (entries : List (String × Node))
  | tables (items : List (List (String × Node)))

abbrev Nodes := List (String × Node)

namespace Node

def find? (key : String) : Nodes → Option Node
  | [] => none
  | (k, node) :: rest => if k = key then some node else find? key rest

def put (key : String) (node : Node) : Nodes → Nodes
  | [] => [(key, node)]
  | (k, old) :: rest => if k = key then (k, node) :: rest else (k, old) :: put key node rest

-- A dotted path must not enter a table that has a header.
def within (dotted : Bool) (change : Bool → Nodes → Option Nodes) : List String → Bool → Nodes → Option Nodes
  | [], made, nodes => change made nodes
  | key :: path, _, nodes =>
      match find? key nodes with
      | none => (within dotted change path dotted []).map fun inner => put key (.table true dotted inner) nodes
      | some (.leaf _) => none
      | some (.tables items) =>
          match items.getLast? with
          | none => none
          | some last => (within dotted change path false last).map fun inner => put key (.tables (items.dropLast ++ [inner])) nodes
      | some (.table implied made inner) =>
          if dotted && !implied then none
          else (within dotted change path made inner).map fun inner => put key (.table implied made inner) nodes

def assignHere (viaDots : Bool) (key : String) (value : Toml) (made : Bool) (nodes : Nodes) : Option Nodes :=
  if made != viaDots || (find? key nodes).isSome then none else some (put key (.leaf value) nodes)

def openTable (key : String) (nodes : Nodes) : Option Nodes :=
  match find? key nodes with
  | none => some (put key (.table false false []) nodes)
  | some (.table true false inner) => some (put key (.table false false inner) nodes)
  | some _ => none

def openItem (key : String) (nodes : Nodes) : Option Nodes :=
  match find? key nodes with
  | none => some (put key (.tables [[]]) nodes)
  | some (.tables items) => some (put key (.tables (items ++ [[]])) nodes)
  | some _ => none

mutual
def value : Node → Toml
  | .leaf v => v
  | .table _ _ nodes => .table (sortedValues nodes)
  | .tables items => .array (itemValues items)
def sortedValues (nodes : Nodes) : List (String × Toml) := (values nodes).mergeSort fun a b => (compare a.1 b.1).isLE
def values : Nodes → List (String × Toml)
  | [] => []
  | (key, node) :: rest => (key, value node) :: values rest
def itemValues : List Nodes → List Toml
  | [] => []
  | nodes :: rest => .table (sortedValues nodes) :: itemValues rest
end

end Node

structure Section where
  nodes : Nodes
  place : List String

namespace Section

def empty : Section := ⟨[], []⟩

def assign (s : Section) (key : List String) (value : Toml) : Option Section :=
  match key.getLast? with
  | none => none
  | some last =>
      let path := key.dropLast
      let add (made : Bool) (nodes : Nodes) : Option Nodes :=
        Node.within true (Node.assignHere (!path.isEmpty) last value) path made nodes
      (Node.within false add s.place false s.nodes).map fun nodes => { s with nodes }

def openAt (s : Section) (key : List String) (add : String → Nodes → Option Nodes) : Option Section :=
  match key.getLast? with
  | none => none
  | some last => (Node.within false (fun _ nodes => add last nodes) key.dropLast false s.nodes).map fun nodes => ⟨nodes, key⟩

def header (s : Section) (key : List String) : Option Section := s.openAt key Node.openTable

def itemHeader (s : Section) (key : List String) : Option Section := s.openAt key Node.openItem

def entries (s : Section) : List (String × Toml) := Node.sortedValues s.nodes

def value (s : Section) : Toml := .table s.entries

end Section
end RegionWiring.Toml
