import RegionWiring.CommandLine.Settings
import RegionWiring.Resolver.Enforcer
import RegionWiring.Wiring.Form

namespace RegionWiring.CommandLine

structure Loaded where
  store : Store
  enforcer : Enforcer

def load (options : EngineOptions) (reader : Reader) (process : String → Option String) : Except CommandFault Loaded := do
  let env ← environmentOf options reader process
  let source ← (Source.ofEnvironment env .empty).mapError .configuration
  return ⟨(Store.ofSource source env reader).value, Enforcer.ofEnvironment env⟩

namespace Loaded

def policy (l : Loaded) : EffectivePolicy := l.enforcer.policy l.store

def textRecord (t : Table String String) : Json := .record (t.entries.map fun (name, value) => (name, .text value))

def form (l : Loaded) : Json :=
  .record [
    ("generation", .natural l.policy.generation),
    ("tables", l.policy.tables.form),
    ("regionPackages", RegionTables.regionForm l.policy.regionPackages),
    ("defaultRegions", RegionTables.listForm Region.name l.policy.defaultRegions.items),
    ("joinGlobalRegions", RegionTables.listForm Region.name l.store.joinedRegions.items),
    ("registrationProperties", textRecord l.store.registration)]

end Loaded

structure Outcome where
  exit : UInt8
  output : String
  fault : Option CommandFault

def regionLine (regions : List Region) : String :=
  if regions = [] then "-" else String.intercalate ", " (regions.map Region.name)

def decisionText (d : WiringDecision) : String :=
  d.verdict.describe ++ "\npackage: " ++ d.package.name ++ "\nrequester regions: " ++ regionLine d.requesterRegions ++
    "\nexporter regions: " ++ regionLine d.exporterRegions ++ "\n"

def readBundle (text : String) (location : Option String) : Except CommandFault BundleRevision :=
  match BundleRevision.read text with
  | .ok revision => .ok (revision.installedAt location)
  | .error fault => .error (.invalidBundle text fault)

def dump (options : EngineOptions) (reader : Reader) (process : String → Option String) : Except CommandFault Outcome := do
  let loaded ← load options reader process
  return ⟨0, loaded.form.sortFields.indented ++ "\n", none⟩

def decisionFor (options : EngineOptions) (check : CheckOptions) (reader : Reader) (process : String → Option String) :
    Except CommandFault WiringDecision := do
  let requester ← readBundle check.requester check.requesterLocation
  let exporter ← readBundle check.exporter check.exporterLocation
  let loaded ← load options reader process
  return loaded.policy.evaluate .nowhere requester exporter ⟨check.package⟩

def check (options : EngineOptions) (c : CheckOptions) (reader : Reader) (process : String → Option String) :
    Except CommandFault Outcome := do
  let d ← decisionFor options c reader process
  return ⟨if d.accepted then 0 else 1, if c.json then (toJson d).indented ++ "\n" else decisionText d, none⟩

def perform (options : EngineOptions) (reader : Reader) (process : String → Option String) : Command → Except CommandFault Outcome
  | .dump => dump options reader process
  | .check c => check options c reader process

def helpText : String :=
  "Usage: apiregions [OPTIONS] <dump|check>\n\n" ++
  "Shared options:\n" ++
  "  --location <LOCATION>          directory or URL of the four region files\n" ++
  "  --properties <FILE>            TOML file with properties\n" ++
  "  --default-regions <REGIONS>    regions of features without any\n" ++
  "  --join-global <REGIONS>        regions to be joined into the global one\n" ++
  "  --log-level <LEVEL>            least level of the messages\n\n" ++
  "Options of check:\n" ++
  "  --requester <BUNDLE> --exporter <BUNDLE> --package <PACKAGE>\n" ++
  "  --requester-location <LOCATION> --exporter-location <LOCATION> --json\n"

def versionText : String := "apiregions 0.1.0\n"

-- `none` asks for a correct line.
def run (reader : Reader) (process : String → Option String) : Invocation → Option Outcome
  | .unusable => none
  | .help => some ⟨0, helpText, none⟩
  | .version => some ⟨0, versionText, none⟩
  | .nothing => some ⟨2, "", none⟩
  | .run options command =>
      match perform options reader process command with
      | .ok outcome => some outcome
      | .error fault => some ⟨2, "", some fault⟩

end RegionWiring.CommandLine
