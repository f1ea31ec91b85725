import RegionWiring.Fault

namespace RegionWiring

inductive Warning where
  | unreadableFile (file : String) (fault : Fault)
  | skippedEntry (cause : ConfigFault)
  | skippedOverlayEntry (cause : ConfigFault)
  | skippedIdentity (source : String) (line : Nat) (fault : VersionFault)
  | wrongValueCount (source : String) (line : Nat) (key : String) (found : Nat)
  | unreadableLocations (fault : Fault)
deriving DecidableEq

def Warning.message : Warning → String
  | .unreadableFile _ fault => "Unable to read configuration file: " ++ fault.message
  | .skippedEntry cause => "Skipping entry: " ++ cause.message
  | .skippedOverlayEntry cause => "Skipping overlay entry: " ++ cause.message
  | .skippedIdentity _ _ fault => "Skipping bundle identity: " ++ fault.message
  | .wrongValueCount _ _ key found =>
      "Skipping bundle identity overlay entry '" ++ key ++ "': expected exactly one value, found " ++ Decimal.render found
  | .unreadableLocations fault => "Unable to load persisted bundle locations: " ++ fault.message

structure Reported (α : Type) where
  value : α
  warnings : List Warning

namespace Reported

instance : Monad Reported where
  pure a := ⟨a, []⟩
  bind x f := ⟨(f x.value).value, x.warnings ++ (f x.value).warnings⟩

def warn (w : Warning) : Reported Unit := ⟨(), [w]⟩

def collect {α β : Type} (f : α → Except Warning β) : List α → Reported (List β)
  | [] => ⟨[], []⟩
  | a :: rest =>
      let later := collect f rest
      match f a with
      | .ok b => ⟨b :: later.value, later.warnings⟩
      | .error w => ⟨later.value, w :: later.warnings⟩

end Reported
end RegionWiring
