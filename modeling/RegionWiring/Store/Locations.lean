import RegionWiring.Json.Form

namespace RegionWiring

abbrev LocationTable := SortedTable SortedSet

abbrev Located := String → List String

def Located.nowhere : Located := fun _ => []

-- The sets have no order of their own.
structure SetOrder where
  items : String → SortedSet → List String
  whole : ∀ key features, (items key features).Perm features.items

def SetOrder.sorted : SetOrder := ⟨fun _ features => features.items, fun _ _ => .refl _⟩

namespace LocationTable

def documentName : String := "bundleLocationToFeature.json"

def located (t : LocationTable) (order : SetOrder) : Located := fun key =>
  match t.get? key with
  | some features => order.items key features
  | none => []

def add (t : LocationTable) (key feature : String) : LocationTable × Bool :=
  let features := (t.get? key).getD .empty
  (t.insert key (features.insert feature), !features.contains feature)

def replace (t : LocationTable) (key : String) (features : List String) : LocationTable × Option SortedSet :=
  (t.insert key (SortedSet.ofList features), t.get? key)

def remove (t : LocationTable) (key : String) : LocationTable × Option SortedSet := (t.erase key, t.get? key)

def document (t : LocationTable) : String := (toJson t).indented

def ofDocument (text : String) : Option LocationTable := JsonForm.decode text

end LocationTable
end RegionWiring
