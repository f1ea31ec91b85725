import RegionWiring.Fault

namespace RegionWiring

inductive Mutation where
  | insert
  | remove
  | clear
  | push
deriving DecidableEq

def Mutation.name : Mutation → String
  | .insert => "insert"
  | .remove => "remove"
  | .clear => "clear"
  | .push => "push"

def Mutation.refusal (m : Mutation) : Fault := .unsupportedMutation (m.name ++ " on a published read-only collection")

-- Every attempt to change it is refused.
def attempt {α : Type} (collection : α) (m : Mutation) : α × Fault := (collection, m.refusal)

end RegionWiring
