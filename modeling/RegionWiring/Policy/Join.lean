import RegionWiring.Tables.Basic

namespace RegionWiring

abbrev RegionPackages := Table Region (Members PackageName)

namespace RegionPackages

def isJoined (joined : Members Region) (region : Region) : Bool := !region.isGlobal && joined.contains region

def moved (t : RegionPackages) (joined : Members Region) : Members PackageName :=
  Members.ofList ((t.filter fun region _ => isJoined joined region).values.flatMap Members.items)

def kept (t : RegionPackages) (joined : Members Region) : RegionPackages :=
  (t.filter fun region _ => !isJoined joined region).mapValues fun region packages =>
    if region.isGlobal then packages.union (moved t joined).items else packages

def joinGlobal (t : RegionPackages) (joined : Members Region) : RegionPackages :=
  if joined.isEmpty then t
  else if (moved t joined).isEmpty || (kept t joined).contains .global then kept t joined
  else (kept t joined).insert .global (moved t joined)

def exposes (t : RegionPackages) (region : Region) (package : PackageName) : Bool :=
  match t.get? region with
  | some packages => packages.contains package
  | none => false

end RegionPackages
end RegionWiring
