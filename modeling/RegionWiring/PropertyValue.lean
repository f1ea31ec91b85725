import RegionWiring.Json.Form
import RegionWiring.Text.Pieces

namespace RegionWiring

inductive PropertyValue where
  | text (s : String)
  | list (items : List String)
deriving DecidableEq

namespace PropertyValue

def text? : PropertyValue → Option String
  | .text s => some s
  | .list _ => none

-- Trimmed, without the empty ones.
def entries (v : PropertyValue) : List String :=
  let raw := match v with
    | .text s => Text.lines s.toList
    | .list items => items.map String.toList
  ((raw.map Text.trim).filter (· ≠ [])).map String.ofList

def describe : PropertyValue → String
  | .text s => s
  | .list items => "[" ++ String.intercalate ", " items ++ "]"

instance : JsonForm PropertyValue where
  toJson
    | .text s => .text s
    | .list items => .texts items
  ofJson?
    | .text s => some (.text s)
    | j => (ofJson? j).map .list

end PropertyValue
end RegionWiring
