import RegionWiring.Text.Binary

namespace RegionWiring

inductive Toml where
  | text (s : String)
  | integer (n : Int)
  | float (x : BinaryFraction)
  | bool (b : Bool)
  | moment (written : String)
  | array (items : List Toml)
  | table (entries : List (String × Toml))
deriving Inhabited

namespace Toml

abbrev Entries := List (String × Toml)

def isTable : Toml → Bool
  | .table _ => true
  | _ => false

def holdsTable : Toml → Bool
  | .array items => items.any isTable
  | _ => false

end Toml
end RegionWiring
