import RegionWiring.CommandLine.Run
import RegionWiring.Files.Tree

namespace RegionWiring.CommandLine

def systemFault : IO.Error → FileFault
  | .noFileOrDirectory .. => .missing
  | .inappropriateType _ code _ => if code = 20 then .notDirectory else .isDirectory
  | other => .other other.toString

def readPath (p : Path) : IO (Except FileFault String) := do
  match String.fromUTF8? p.bytes.toByteArray with
  | none => return .error .missing
  | some name =>
      try
        let bytes ← IO.FS.readBinFile name
        match Content.ofBytes bytes.toList with
        | .text s => return .ok s
        | .undecodable => return .error .undecodable
      catch fault => return .error (systemFault fault)

def readPaths (paths : List Path) : IO (List (Path × Except FileFault String)) :=
  paths.mapM fun p => return (p, ← readPath p)

def knownKeys : List String :=
  [Key.regions, Key.location, Key.defaults, Key.joinGlobal] ++ BaseFile.all.map (Key.resourceStem ++ ·)

def readProcess : IO (String → Option String) := do
  let known ← (knownKeys.map Environment.variableName).mapM fun name => return (name, ← IO.getEnv name)
  return fun name => (known.find? (·.1 == name)).bind Prod.snd

def readerFor (options : EngineOptions) (process : String → Option String) : IO Reader := do
  let settings ← readPaths (options.properties.toList.map Path.ofString)
  let paths :=
    match environmentOf options (Reader.ofList settings) process with
    | .ok env => Source.paths ⟨Source.locationsOf env, .empty⟩
    | .error _ => []
  return Reader.ofList (settings ++ (← readPaths paths))

def usageText : String := "error: the arguments cannot be used\n\n" ++ helpText

def report (outcome : Option Outcome) : IO UInt32 := do
  match outcome with
  | none => do
      IO.eprintln usageText
      return 2
  | some outcome => do
      IO.print outcome.output
      match outcome.fault with
      | some fault => IO.eprintln ("Error: " ++ fault.message)
      | none => pure ()
      return outcome.exit.toUInt32

end RegionWiring.CommandLine

def main (args : List String) : IO UInt32 := do
  let process ← RegionWiring.CommandLine.readProcess
  let invocation := RegionWiring.CommandLine.readArguments args
  let reader ← RegionWiring.CommandLine.readerFor invocation.engine process
  RegionWiring.CommandLine.report (RegionWiring.CommandLine.run reader process invocation)
