import RegionWiring.Proofs.JsonText
import RegionWiring.Proofs.SortedCollections
import RegionWiring.Store.Locations

namespace RegionWiring

class LawfulForm (α : Type) [JsonForm α] : Prop where
  native : ∀ a : α, (toJson a).Native
  ofJson_toJson : ∀ a : α, ofJson? (toJson a) = some a

namespace LawfulForm

instance : LawfulForm String := ⟨fun _ => trivial, fun _ => rfl⟩

instance {α : Type} [JsonForm α] [LawfulForm α] : LawfulForm (List α) where
  native items := by
    show Json.NativeItems (items.map toJson)
    induction items with
    | nil => trivial
    | cons item items ih => exact ⟨native item, ih⟩
  ofJson_toJson items := by
    show (items.map toJson).mapM ofJson? = some items
    induction items with
    | nil => rfl
    | cons item items ih => simp [ofJson_toJson item, ih]

instance : LawfulForm SortedSet where
  native s := native s.items
  ofJson_toJson s := by
    show (ofJson? (toJson s.items)).map SortedSet.ofList = some s
    rw [ofJson_toJson, Option.map_some, SortedSet.ofList_items]

instance {α : Type} [JsonForm α] [LawfulForm α] : LawfulForm (SortedTable α) where
  native t := by
    show Json.NativeFields (t.entries.map fun entry => (entry.1, toJson entry.2))
    induction t.entries with
    | nil => trivial
    | cons entry entries ih => exact ⟨native entry.2, ih⟩
  ofJson_toJson t := by
    have fields (entries : List (String × α)) : (entries.map fun entry => (entry.1, toJson entry.2)).mapM (m := Option)
        (fun field => (ofJson? field.2).map (field.1, ·)) = some entries := by
      induction entries with
      | nil => rfl
      | cons entry entries ih => simp [ofJson_toJson entry.2, ih]
    refine (congrArg (Option.map SortedTable.ofList) (fields t.entries)).trans ?_
    rw [Option.map_some, SortedTable.ofList_entries]

end LawfulForm

-- An empty set stays a set.
theorem LocationTable.ofDocument_document (t : LocationTable) : ofDocument t.document = some t := by
  show (Json.read (toJson t).indented).bind ofJson? = some t
  rw [Json.read_indented (LawfulForm.native t), Option.bind_some, LawfulForm.ofJson_toJson]

end RegionWiring
