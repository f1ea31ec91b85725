import RegionWiring.Json.Form
import RegionWiring.Text.Lowercase

namespace RegionWiring

inductive LogLevel where
  | trace
  | debug
  | info
  | warning
  | error
deriving DecidableEq

structure UnknownLogLevel where
  name : String
deriving DecidableEq

def UnknownLogLevel.message (fault : UnknownLogLevel) : String := "Unknown log level: " ++ fault.name

namespace LogLevel

def severity : LogLevel → Nat
  | .trace => 0
  | .debug => 1
  | .info => 2
  | .warning => 3
  | .error => 4

instance : Ord LogLevel := ⟨fun a b => compare a.severity b.severity⟩

def name : LogLevel → String
  | .trace => "TRACE"
  | .debug => "DEBUG"
  | .info => "INFO"
  | .warning => "WARNING"
  | .error => "ERROR"

def lineName : LogLevel → String
  | .warning => "WARN"
  | level => level.name

def ofLowercase : String → Option LogLevel
  | "trace" => some .trace
  | "debug" => some .debug
  | "info" => some .info
  | "warning" => some .warning
  | "warn" => some .warning
  | "error" => some .error
  | "err" => some .error
  | _ => none

def read (s : String) : Except UnknownLogLevel LogLevel :=
  match ofLowercase (Text.lowercase s) with
  | some level => .ok level
  | none => .error ⟨Text.lowercase s⟩

instance : JsonForm LogLevel where
  toJson
    | .trace => .text "trace"
    | .debug => .text "debug"
    | .info => .text "info"
    | .warning => .text "warning"
    | .error => .text "error"
  ofJson? j :=
    match JsonForm.alternative j with
    | some ("trace", .null) => some .trace
    | some ("debug", .null) => some .debug
    | some ("info", .null) => some .info
    | some ("warning", .null) => some .warning
    | some ("error", .null) => some .error
    | _ => none

end LogLevel
end RegionWiring
