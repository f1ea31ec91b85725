import RegionWiring.Version

namespace RegionWiring

inductive ConfigFault where
  | noConfiguration (locationKey resourceStem : String)
  | malformedEntry (source : String) (line : Nat) (reason : String)
  | invalidVersion (fault : VersionFault)
  | unsupportedLocation (location : String)
  | persistence (reason : String)
deriving DecidableEq

def ConfigFault.message : ConfigFault → String
  | .noConfiguration locationKey resourceStem =>
      "No API regions configuration found: set '" ++ locationKey ++ "' or '" ++ resourceStem ++ "<file>'"
  | .malformedEntry source line reason =>
      "Malformed entry in " ++ source ++ " at line " ++ Decimal.render line ++ ": " ++ reason
  | .invalidVersion fault => "Invalid bundle identity: " ++ fault.message
  | .unsupportedLocation location => "Unsupported location: " ++ location
  | .persistence reason => "Persistence error: " ++ reason

structure Violation where
  package : String
  requester : String
  reason : String
deriving DecidableEq

def Violation.message (v : Violation) : String :=
  "Package " ++ v.package ++ " is not visible to " ++ v.requester ++ ": " ++ v.reason

inductive Fault where
  | config (cause : ConfigFault)
  | policy (violation : Violation)
  | unsupportedMutation (attempt : String)
  | io (reason : String)
  | serialization (reason : String)
deriving DecidableEq

def Fault.message : Fault → String
  | .config cause => "Configuration error: " ++ cause.message
  | .policy violation => "Policy error: " ++ violation.message
  | .unsupportedMutation attempt => "Unsupported mutation: " ++ attempt
  | .io reason => "I/O error: " ++ reason
  | .serialization reason => "Serialization error: " ++ reason

end RegionWiring
