import RegionWiring.LogLevel
import RegionWiring.Text.Pieces
import RegionWiring.Collection.Table

namespace RegionWiring.CommandLine

structure EngineOptions where
  location : Option String
  properties : Option String
  defaultRegions : Option String
  joinGlobal : Option String
deriving DecidableEq

structure CheckOptions where
  requester : String
  exporter : String
  package : String
  requesterLocation : Option String
  exporterLocation : Option String
  json : Bool
deriving DecidableEq

inductive Command where
  | dump
  | check (options : CheckOptions)
deriving DecidableEq

inductive Invocation where
  | help
  | version
  | nothing
  | unusable
  | run (engine : EngineOptions) (command : Command)
deriving DecidableEq

def Invocation.engine : Invocation → EngineOptions
  | .run engine _ => engine
  | _ => ⟨none, none, none, none⟩

inductive OptionName where
  | location
  | properties
  | defaultRegions
  | joinGlobal
  | logLevel
  | requester
  | exporter
  | package
  | requesterLocation
  | exporterLocation
deriving DecidableEq

inductive Level where
  | top
  | dump
  | check
deriving DecidableEq

def sharedOption? : String → Option OptionName
  | "location" => some .location
  | "properties" => some .properties
  | "default-regions" => some .defaultRegions
  | "join-global" => some .joinGlobal
  | "log-level" => some .logLevel
  | _ => none

def checkOption? : String → Option OptionName
  | "requester" => some .requester
  | "exporter" => some .exporter
  | "package" => some .package
  | "requester-location" => some .requesterLocation
  | "exporter-location" => some .exporterLocation
  | _ => none

def option? (level : Level) (name : String) : Option OptionName :=
  (sharedOption? name).or (if level = .check then checkOption? name else none)

def allows : OptionName → String → Bool
  | .logLevel, value => (LogLevel.read value).toOption.isSome
  | .properties, value => value != ""
  | _, _ => true

structure Progress where
  level : Level
  above : Table OptionName String
  given : Table OptionName String
  json : Bool

namespace Progress

def initial : Progress := ⟨.top, .empty, .empty, false⟩

def value? (p : Progress) (name : OptionName) : Option String := (p.given.get? name).or (p.above.get? name)

-- No option is given twice at one level.
def give (p : Progress) (name : OptionName) (value : String) : Option Progress :=
  if p.given.contains name || !allows name value then none else some { p with given := p.given.insert name value }

def enter (p : Progress) (level : Level) : Progress := ⟨level, p.given, .empty, false⟩

def engine (p : Progress) : EngineOptions :=
  ⟨p.value? .location, p.value? .properties, p.value? .defaultRegions, p.value? .joinGlobal⟩

def checkOptions? (p : Progress) : Option CheckOptions := do
  return ⟨← p.value? .requester, ← p.value? .exporter, ← p.value? .package, p.value? .requesterLocation,
    p.value? .exporterLocation, p.json⟩

def finish (p : Progress) : Invocation :=
  match p.level with
  | .top => if p.given.isEmpty then .nothing else .unusable
  | .dump => .run p.engine .dump
  | .check =>
      match p.checkOptions? with
      | some options => .run p.engine (.check options)
      | none => .unusable

end Progress

def splitLong (cs : List Char) : String × Option String :=
  match Text.cut '=' cs with
  | some (name, value) => (String.ofList name, some (String.ofList value))
  | none => (String.ofList cs, none)

-- A value must not look like an option.
def isValue (arg : String) : Bool :=
  match arg.toList with
  | '-' :: _ :: _ => false
  | _ => true

def helpFor : List String → Invocation
  | [] => .help
  | [topic] => if topic = "dump" || topic = "check" || topic = "help" then .help else .unusable
  | _ => .unusable

def shortFlag (level : Level) (c : Char) : Invocation :=
  if c = 'h' then .help else if c = 'V' && level = .top then .version else .unusable

def readFrom (p : Progress) : List String → Invocation
  | [] => p.finish
  | arg :: rest =>
      match arg.toList with
      | ['-', '-'] => if rest = [] then p.finish else .unusable
      | '-' :: '-' :: name =>
          match splitLong name with
          | ("help", none) => .help
          | ("version", none) => if p.level = .top then .version else .unusable
          | ("json", none) => if p.level = .check && !p.json then readFrom { p with json := true } rest else .unusable
          | (name, some value) =>
              match (option? p.level name).bind (p.give · value) with
              | some p => readFrom p rest
              | none => .unusable
          | (name, none) =>
              match option? p.level name, rest with
              | some name, value :: rest =>
                  if !isValue value then .unusable
                  else
                    match p.give name value with
                    | some p => readFrom p rest
                    | none => .unusable
              | _, _ => .unusable
      | '-' :: c :: _ => shortFlag p.level c
      | _ =>
          if p.level ≠ .top then .unusable
          else if arg = "dump" then readFrom (p.enter .dump) rest
          else if arg = "check" then readFrom (p.enter .check) rest
          else if arg = "help" then helpFor rest
          else .unusable

def readArguments (args : List String) : Invocation := readFrom .initial args

end RegionWiring.CommandLine
