import RegionWiring.Text.Pieces
import RegionWiring.Text.Decimal

namespace RegionWiring

structure Version where
  major : UInt32
  minor : UInt32
  micro : UInt32
  qualifier : Option String
deriving DecidableEq, Inhabited

inductive VersionDefect where
  | emptyVersion
  | invalidMajor
  | invalidMinor
  | invalidMicro
  | emptyQualifier
  | invalidQualifier
  | missingSeparator
  | emptySymbolicName
deriving DecidableEq

def VersionDefect.reason : VersionDefect → String
  | .emptyVersion => "Empty version"
  | .invalidMajor => "Invalid major version"
  | .invalidMinor => "Invalid minor version"
  | .invalidMicro => "Invalid micro version"
  | .emptyQualifier => "Empty qualifier"
  | .invalidQualifier => "Invalid qualifier"
  | .missingSeparator => "Missing '~' separator"
  | .emptySymbolicName => "Empty symbolic name"

structure VersionFault where
  text : String
  defect : VersionDefect
deriving DecidableEq

def VersionFault.message (fault : VersionFault) : String :=
  "Invalid version '" ++ fault.text ++ "': " ++ fault.defect.reason

namespace Version

def zero : Version := ⟨0, 0, 0, none⟩

def isQualifierChar (c : Char) : Bool := c.isAlphanum || c == '-' || c == '_'

-- A missing number is zero, and the first defect is reported.
def number (pieces : List (List Char)) (index : Nat) (defect : VersionDefect) : Except VersionDefect UInt32 :=
  match pieces[index]? with
  | none => .ok 0
  | some piece =>
      match Decimal.readWord piece with
      | some n => .ok n
      | none => .error defect

def qualifierOf (pieces : List (List Char)) : Except VersionDefect (Option String) :=
  match pieces[3]? with
  | none => .ok none
  | some [] => .error .emptyQualifier
  | some piece => if piece.all isQualifierChar then .ok (some (String.ofList piece)) else .error .invalidQualifier

def ofPieces (pieces : List (List Char)) : Except VersionDefect Version := do
  let major ← number pieces 0 .invalidMajor
  let minor ← number pieces 1 .invalidMinor
  let micro ← number pieces 2 .invalidMicro
  let qualifier ← qualifierOf pieces
  return ⟨major, minor, micro, qualifier⟩

-- Surrounding white space is ignored.
def read (s : String) : Except VersionFault Version :=
  let cs := Text.trim s.toList
  if cs = [] then .error ⟨s, .emptyVersion⟩
  else (ofPieces (Text.cutUpTo '.' 3 cs)).mapError (VersionFault.mk s)

def render (v : Version) : String :=
  Decimal.render v.major.toNat ++ "." ++ Decimal.render v.minor.toNat ++ "." ++ Decimal.render v.micro.toNat ++
    match v.qualifier with
    | none => ""
    | some q => "." ++ q

def compareQualifiers : Option String → Option String → Ordering
  | none, none => .eq
  | none, some _ => .lt
  | some _, none => .gt
  | some a, some b => compare a b

instance : Ord Version where
  compare a b :=
    ((compare a.major b.major).then (compare a.minor b.minor)).then
      ((compare a.micro b.micro).then (compareQualifiers a.qualifier b.qualifier))

end Version
end RegionWiring
