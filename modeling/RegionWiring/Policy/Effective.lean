import RegionWiring.Policy.Join
import RegionWiring.Store.Basic

namespace RegionWiring

structure EffectivePolicy where
  generation : Nat
  tables : RegionTables
  regionPackages : RegionPackages
  defaultRegions : Members Region
deriving Inhabited

namespace EffectivePolicy

def derive (snapshot : Snapshot) (defaultRegions joinedRegions : Members Region) : EffectivePolicy :=
  ⟨snapshot.generation, snapshot.tables, RegionPackages.joinGlobal snapshot.tables.regions joinedRegions, defaultRegions⟩

def ofStore (s : Store) : EffectivePolicy := derive s.snapshot s.defaultRegions s.joinedRegions

def isGlobalPackage (p : EffectivePolicy) (package : PackageName) : Bool := p.regionPackages.exposes .global package

def exposes (p : EffectivePolicy) (region : Region) (package : PackageName) : Bool := p.regionPackages.exposes region package

def form (p : EffectivePolicy) : Json :=
  .record [
    ("generation", .natural p.generation),
    ("tables", p.tables.form),
    ("regionPackages", RegionTables.regionForm p.regionPackages),
    ("defaultRegions", RegionTables.listForm Region.name p.defaultRegions.items)]

end EffectivePolicy
end RegionWiring
