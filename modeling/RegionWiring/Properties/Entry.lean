import RegionWiring.Properties.Escape
import RegionWiring.Text.Blank
import RegionWiring.Fault

namespace RegionWiring.Properties

structure Entry where
  key : String
  values : List String
  line : Nat
deriving DecidableEq

inductive EntryDefect where
  | missingSeparator
  | emptyKey
deriving DecidableEq

def EntryDefect.reason : EntryDefect → String
  | .missingSeparator => "missing '='"
  | .emptyKey => "empty key"

def token (cs : List Char) : List Char := unescape (Text.trim cs)

def Entry.ofChars (line : Nat) (cs : List Char) : Except EntryDefect Entry :=
  match cutUnescaped '=' cs with
  | none => .error .missingSeparator
  | some (before, after) =>
      let key := token before
      if key = [] then .error .emptyKey
      else
        let values := ((splitUnescaped ',' after).map token).filter (· ≠ [])
        .ok ⟨String.ofList key, values.map String.ofList, line⟩

def Entry.read (source : String) (line : Nat) (text : List Char) : Except ConfigFault Entry :=
  (Entry.ofChars line text).mapError fun defect => .malformedEntry source line defect.reason

end RegionWiring.Properties
