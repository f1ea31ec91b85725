import RegionWiring.Wiring.Decision
import RegionWiring.Json.Form

namespace RegionWiring

open JsonForm (fieldValues needed ifPresent alternative)

instance : JsonForm Region where
  toJson r := .text r.name
  ofJson? j := (ofJson? j).map Region.mk

instance : JsonForm PackageName where
  toJson p := .text p.name
  ofJson? j := (ofJson? j).map PackageName.mk

instance : JsonForm Version where
  toJson v := .record [("major", toJson v.major), ("minor", toJson v.minor), ("micro", toJson v.micro),
    ("qualifier", toJson v.qualifier)]
  ofJson? j :=
    match fieldValues ["major", "minor", "micro", "qualifier"] j with
    | some [major, minor, micro, qualifier] =>
        return ⟨← needed major, ← needed minor, ← needed micro, ← ifPresent qualifier⟩
    | _ => none

instance : JsonForm BundleIdentity where
  toJson b := .record [("symbolic_name", toJson b.symbolicName), ("version", toJson b.version)]
  ofJson? j :=
    match fieldValues ["symbolic_name", "version"] j with
    | some [name, version] => return ⟨← needed name, ← needed version⟩
    | _ => none

instance : JsonForm BundleRevision where
  toJson r := .record [("identity", toJson r.identity), ("location", toJson r.location)]
  ofJson? j :=
    match fieldValues ["identity", "location"] j with
    | some [identity, location] => return ⟨← needed identity, ← ifPresent location⟩
    | _ => none

instance : JsonForm Requirement where
  toJson r := .record [("namespace", toJson r.namesp), ("requirer", toJson r.requirer), ("package", toJson r.package)]
  ofJson? j :=
    match fieldValues ["namespace", "requirer", "package"] j with
    | some [namesp, requirer, package] => return ⟨← needed namesp, ← needed requirer, ← ifPresent package⟩
    | _ => none

instance : JsonForm Capability where
  toJson c := .record [("namespace", toJson c.namesp), ("provider", toJson c.provider), ("package", toJson c.package)]
  ofJson? j :=
    match fieldValues ["namespace", "provider", "package"] j with
    | some [namesp, provider, package] => return ⟨← needed namesp, ← needed provider, ← ifPresent package⟩
    | _ => none

instance : JsonForm Verdict where
  toJson
    | .requesterUnrestricted => .text "requester_unrestricted"
    | .exporterUnrestricted => .text "exporter_unrestricted"
    | .globalPackage => .text "global_package"
    | .sharedRegion region => .record [("shared_region", toJson region)]
    | .rejected => .text "rejected"
  ofJson? j :=
    match alternative j with
    | some ("requester_unrestricted", .null) => some .requesterUnrestricted
    | some ("exporter_unrestricted", .null) => some .exporterUnrestricted
    | some ("global_package", .null) => some .globalPackage
    | some ("shared_region", content) => (ofJson? content).map .sharedRegion
    | some ("rejected", .null) => some .rejected
    | _ => none

instance : JsonForm WiringDecision where
  toJson d := .record [("package", toJson d.package), ("requester_regions", toJson d.requesterRegions),
    ("exporter_regions", toJson d.exporterRegions), ("verdict", toJson d.verdict)]
  ofJson? j :=
    match fieldValues ["package", "requester_regions", "exporter_regions", "verdict"] j with
    | some [package, requesterRegions, exporterRegions, verdict] =>
        return ⟨← needed package, ← needed requesterRegions, ← needed exporterRegions, ← needed verdict⟩
    | _ => none

end RegionWiring
