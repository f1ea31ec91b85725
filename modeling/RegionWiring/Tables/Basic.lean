import RegionWiring.Collection.Members
import RegionWiring.Collection.Table
import RegionWiring.Json.Value
import RegionWiring.Tables.Contribution

namespace RegionWiring

structure RegionTables where
  identities : Table BundleIdentity (List BundleId)
  bundles : Table BundleId (Members FeatureId)
  features : Table FeatureId (Members Region)
  regions : Table Region (Members PackageName)
deriving Inhabited

namespace RegionTables

def empty : RegionTables := ⟨.empty, .empty, .empty, .empty⟩

def listIdentity (t : Table BundleIdentity (List BundleId)) (entry : BundleIdentity × List BundleId) :
    Table BundleIdentity (List BundleId) :=
  if entry.2 = [] then t else t.adjust entry.1 [] (· ++ entry.2)

def unite {α β : Type} [DecidableEq α] [DecidableEq β] (t : Table α (Members β)) (entry : α × List β) : Table α (Members β) :=
  if entry.2 = [] then t else t.adjust entry.1 .empty (·.union entry.2)

def merge (t : RegionTables) (c : Contribution) : RegionTables :=
  ⟨c.identities.foldl listIdentity t.identities, c.bundles.foldl unite t.bundles,
    c.features.foldl unite t.features, c.regions.foldl unite t.regions⟩

def ofContributions (sources : List Contribution) : RegionTables := sources.foldl merge empty

def isEmpty (t : RegionTables) : Bool :=
  t.identities.isEmpty && t.bundles.isEmpty && t.features.isEmpty && t.regions.isEmpty

-- Only the bundle ids of an identity are compared in order.
instance : BEq RegionTables where
  beq a b := a.identities == b.identities && a.bundles == b.bundles && a.features == b.features && a.regions == b.regions

def listForm {α : Type} (name : α → String) (items : List α) : Json := .texts (items.map name)

def setsForm {α β : Type} (key : α → String) (name : β → String) (t : Table α (Members β)) : Json :=
  .record (t.entries.map fun (a, members) => (key a, listForm name members.items))

def regionForm (t : Table Region (Members PackageName)) : Json := setsForm Region.name PackageName.name t

def identitiesByText (t : Table BundleIdentity (List BundleId)) : Table String (List BundleId) :=
  Table.ofList (t.entries.map fun (identity, ids) => (identity.render, ids))

def form (t : RegionTables) : Json :=
  .record [
    ("bsnVerMap", .record ((identitiesByText t.identities).entries.map fun (text, ids) => (text, listForm BundleId.name ids))),
    ("bundleFeatureMap", setsForm BundleId.name FeatureId.name t.bundles),
    ("featureRegionMap", setsForm FeatureId.name Region.name t.features),
    ("regionPackageMap", regionForm t.regions)]

end RegionTables
end RegionWiring
