import RegionWiring.Environment
import RegionWiring.Policy.Evaluation
import RegionWiring.PropertyValue

namespace RegionWiring

structure Enforcer where
  enabled : Bool
  kept : Option EffectivePolicy

-- `opening` numbers the location table that the hook looks into.
inductive Hook where
  | acceptAll
  | regions (policy : EffectivePolicy) (opening : Nat)

namespace Enforcer

-- Any value enables.
def ofEnvironment (env : Environment) : Enforcer := ⟨(env Key.regions).isSome, none⟩

def switch (e : Enforcer) (enabled : Bool) : Enforcer := { e with enabled }

-- Only the text `true` disables.
def disables (update : Option Update) : Bool := ((update.bind (·.get? Key.disable)).bind PropertyValue.text?) == some "true"

def manage (e : Enforcer) (update : Option Update) : Enforcer := e.switch (!disables update)

def fresh? (e : Enforcer) (s : Store) : Option EffectivePolicy := e.kept.filter (·.generation == s.generation)

def policy (e : Enforcer) (s : Store) : EffectivePolicy := (e.fresh? s).getD (EffectivePolicy.ofStore s)

def keep (e : Enforcer) (s : Store) : Enforcer := { e with kept := some (e.policy s) }

def hook (e : Enforcer) (s : Store) (opening : Nat) : Hook :=
  if e.enabled then .regions (e.policy s) opening else .acceptAll

def afterBegin (e : Enforcer) (s : Store) : Enforcer := if e.enabled then e.keep s else e

end Enforcer

namespace Hook

def filterMatches (located : Nat → Located) (r : Requirement) (candidates : List Capability) : Hook → List Capability
  | .acceptAll => candidates
  | .regions policy opening => policy.filterMatches (located opening) r candidates

def featuresOf? (located : Nat → Located) (r : BundleRevision) : Hook → Option (Members FeatureId)
  | .acceptAll => none
  | .regions policy opening => some (policy.featuresOf (located opening) r)

def regionsOf? (features : Members FeatureId) : Hook → Option (Members Region)
  | .acceptAll => none
  | .regions policy _ => some (policy.regionsOf features)

def evaluate? (located : Nat → Located) (requester provider : BundleRevision) (package : PackageName) :
    Hook → Option WiringDecision
  | .acceptAll => none
  | .regions policy opening => some (policy.evaluate (located opening) requester provider package)

def filterResolvable (_hook : Hook) (candidates : List BundleRevision) : List BundleRevision := candidates

def filterCollisions (_hook : Hook) (_singleton : BundleRevision) (collisions : List BundleRevision) : List BundleRevision :=
  collisions

end Hook
end RegionWiring
