import RegionWiring.Store.DataArea
import RegionWiring.Tables.Basic

namespace RegionWiring

-- The number is the same as that of a 64-bit counter as long as it is less than 2 ^ 64.
structure Snapshot where
  generation : Nat
  tables : RegionTables

structure Store where
  base : Contribution
  overlays : Table String Contribution
  snapshot : Snapshot
  defaultRegions : Members Region
  joinedRegions : Members Region
  registration : Table String String

namespace Store

def regionList (env : Environment) (key : String) : Members Region := Members.ofList ((env.listProperty key).map Region.mk)

def registrationOf (source : Source) : Table String String :=
  Table.ofList (BaseFile.all.filterMap fun file => (source.location? file).map (file, ·))

def ofBase (base : Contribution) (defaultRegions joinedRegions : Members Region) (registration : Table String String) : Store :=
  ⟨base, .empty, ⟨1, RegionTables.ofContributions [base]⟩, defaultRegions, joinedRegions, registration⟩

def ofSource (source : Source) (env : Environment) (reader : Reader) : Reported Store := do
  let base ← Contribution.ofSource source reader
  return ofBase base (regionList env Key.defaults) (regionList env Key.joinGlobal) (registrationOf source)

def generation (s : Store) : Nat := s.snapshot.generation

def tables (s : Store) : RegionTables := s.snapshot.tables

def contributions (base : Contribution) (overlays : Table String Contribution) : List Contribution := base :: overlays.values

def republish (s : Store) (overlays : Table String Contribution) : Store :=
  { s with overlays, snapshot := ⟨s.generation + 1, RegionTables.ofContributions (contributions s.base overlays)⟩ }

-- An active overlay keeps its place.
def register (s : Store) (id : String) (overlay : Contribution) : Store := s.republish (s.overlays.insert id overlay)

def applyOverlay (s : Store) (id : String) (update : Update) : Reported Store := do
  return s.register id (← Contribution.ofUpdate id update)

def removeOverlay (s : Store) (id : String) : Store × Bool :=
  if s.overlays.contains id then (s.republish (s.overlays.erase id), true) else (s, false)

def overlayIds (s : Store) : List String := s.overlays.keys

end Store
end RegionWiring
