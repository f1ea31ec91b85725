import RegionWiring.Json.Reader
import RegionWiring.Json.Writer
import RegionWiring.Collection.Sorted

namespace RegionWiring

class JsonForm (α : Type) where
  toJson : α → Json
  ofJson? : Json → Option α

export JsonForm (toJson ofJson?)

namespace JsonForm

def encode {α : Type} [JsonForm α] (a : α) : String := (toJson a).compact

def decode {α : Type} [JsonForm α] (s : String) : Option α := (Json.read s).bind ofJson?

instance : JsonForm String where
  toJson := .text
  ofJson?
    | .text s => some s
    | _ => none

instance : JsonForm UInt32 where
  toJson n := .natural n.toNat
  ofJson?
    | .integer (.ofNat n) => if n < 4294967296 then some (UInt32.ofNat n) else none
    | _ => none

instance {α : Type} [JsonForm α] : JsonForm (Option α) where
  toJson := Json.orNull toJson
  ofJson?
    | .null => some none
    | j => (ofJson? j).map some

instance {α : Type} [JsonForm α] : JsonForm (List α) where
  toJson items := .list (items.map toJson)
  ofJson?
    | .list items => items.mapM ofJson?
    | _ => none

-- The last value of a repeated name counts.
instance {α : Type} [JsonForm α] : JsonForm (SortedTable α) where
  toJson t := .record (t.entries.map fun entry => (entry.1, toJson entry.2))
  ofJson?
    | .record fields => (fields.mapM fun field => (ofJson? field.2).map (field.1, ·)).map SortedTable.ofList
    | _ => none

instance : JsonForm SortedSet where
  toJson s := .texts s.items
  ofJson? j := (ofJson? j).map SortedSet.ofList

def fieldValues (names : List String) : Json → Option (List (Option Json))
  | .record fields => names.mapM fun name =>
      match fields.filter (·.1 == name) with
      | [] => some none
      | [field] => some (some field.2)
      | _ => none
  | .list items => if items.length = names.length then some (items.map some) else none
  | _ => none

def needed {α : Type} [JsonForm α] (value : Option Json) : Option α := value.bind ofJson?

def ifPresent {α : Type} [JsonForm α] (value : Option Json) : Option (Option α) :=
  match value with
  | none => some none
  | some j => ofJson? j

def alternative : Json → Option (String × Json)
  | .text name => some (name, .null)
  | .record [(name, content)] => some (name, content)
  | _ => none

end JsonForm
end RegionWiring
