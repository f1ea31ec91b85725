namespace RegionWiring

inductive Json where
  | null
  | bool (b : Bool)
  | integer (n : Int)
  | text (s : String)
  | list (items : List Json)
  | record (fields : List (String × Json))
  -- A fraction, minus zero or an unpaired surrogate; never written here.
  | foreign
deriving Inhabited

namespace Json

def natural (n : Nat) : Json := .integer n

def texts (items : List String) : Json := .list (items.map .text)

def orNull {α : Type} (form : α → Json) : Option α → Json
  | none => .null
  | some a => form a

mutual
def sortFields : Json → Json
  | .list items => .list (sortItems items)
  | .record fields => .record ((sortMembers fields).mergeSort fun a b => (compare a.1 b.1).isLE)
  | other => other
def sortItems : List Json → List Json
  | [] => []
  | item :: rest => sortFields item :: sortItems rest
def sortMembers : List (String × Json) → List (String × Json)
  | [] => []
  | (name, value) :: rest => (name, sortFields value) :: sortMembers rest
end

end Json
end RegionWiring
