import RegionWiring.Identity

namespace RegionWiring

def packageNamespace : String := "osgi.wiring.package"

structure Requirement where
  namesp : String
  requirer : BundleRevision
  package : Option PackageName
deriving DecidableEq

structure Capability where
  namesp : String
  provider : BundleRevision
  package : Option PackageName
deriving DecidableEq

def Requirement.isPackage (r : Requirement) : Bool := r.namesp == packageNamespace

-- The capability's own package, else the required one.
def Capability.packageFor (c : Capability) (r : Requirement) : Option PackageName := c.package.or r.package

def Capability.ofPackage (provider : BundleRevision) (package : PackageName) : Capability :=
  ⟨packageNamespace, provider, some package⟩

def Requirement.ofPackage (requirer : BundleRevision) (package : PackageName) : Requirement :=
  ⟨packageNamespace, requirer, some package⟩

end RegionWiring
