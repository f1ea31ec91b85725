import RegionWiring.Proofs.Collections
import RegionWiring.Tables.Basic

namespace RegionWiring
namespace RegionTables

section Accumulation

variable {α β γ : Type} [DecidableEq α]

def given (entries : List (α × List β)) (key : α) : List β :=
  (entries.filter fun entry => entry.1 = key).flatMap Prod.snd

theorem given_cons (k : α) (values : List β) (rest : List (α × List β)) (key : α) :
    given ((k, values) :: rest) key = if k = key then values ++ given rest key else given rest key := by
  by_cases h : k = key <;> simp [given, h]

-- An entry without values adds nothing, not even its key.
def accumulate (default : γ) (add : γ → List β → γ) (t : Table α γ) (entry : α × List β) : Table α γ :=
  if entry.2 = [] then t else t.adjust entry.1 default (add · entry.2)

theorem get?_accumulate (default : γ) (add : γ → List β → γ) (t : Table α γ) (k : α) (values : List β) (key : α) :
    (accumulate default add t (k, values)).get? key =
      if k = key ∧ values ≠ [] then some (add ((t.get? key).getD default) values) else t.get? key := by
  by_cases none : values = []
  · simp [accumulate, none]
  · by_cases h : k = key
    · subst h
      simp [accumulate, none, Table.adjust, Table.get?_insert]
    · simp [accumulate, none, Table.adjust, Table.get?_insert, h]

-- By induction on the entries; adding twice is adding both at once.
theorem get?_foldl_accumulate (default : γ) (add : γ → List β → γ)
    (portions : ∀ c first second, add (add c first) second = add c (first ++ second))
    (entries : List (α × List β)) (t : Table α γ) (key : α) :
    (entries.foldl (accumulate default add) t).get? key =
      if given entries key = [] then t.get? key else some (add ((t.get? key).getD default) (given entries key)) := by
  induction entries generalizing t with
  | nil => simp [given]
  | cons head rest ih =>
      obtain ⟨k, values⟩ := head
      rw [List.foldl_cons, ih, get?_accumulate, given_cons]
      by_cases h : k = key
      · by_cases none : values = []
        · simp [h, none]
        · by_cases later : given rest key = []
          · simp [h, none, later]
          · simp [h, none, later, portions]
      · simp [h]

theorem listIdentity_eq : listIdentity = accumulate [] (· ++ ·) := rfl

theorem unite_eq [DecidableEq β] : unite (α := α) (β := β) = accumulate Members.empty Members.union := rfl

theorem get?_foldl_listIdentity_onto (entries : List (BundleIdentity × List BundleId)) (t : Table BundleIdentity (List BundleId))
    (key : BundleIdentity) :
    (entries.foldl listIdentity t).get? key =
      if given entries key = [] then t.get? key else some ((t.get? key).getD [] ++ given entries key) := by
  rw [listIdentity_eq, get?_foldl_accumulate [] (· ++ ·) List.append_assoc]

theorem get?_foldl_unite_onto [DecidableEq β] (entries : List (α × List β)) (t : Table α (Members β)) (key : α) :
    (entries.foldl unite t).get? key =
      if given entries key = [] then t.get? key else some (((t.get? key).getD .empty).union (given entries key)) := by
  rw [unite_eq, get?_foldl_accumulate Members.empty Members.union fun c first second => (Members.union_append c first second).symm]

theorem get?_foldl_listIdentity (entries : List (BundleIdentity × List BundleId)) (key : BundleIdentity) :
    (entries.foldl listIdentity .empty).get? key = if given entries key = [] then none else some (given entries key) :=
  get?_foldl_listIdentity_onto entries .empty key

theorem get?_foldl_unite [DecidableEq β] (entries : List (α × List β)) (key : α) :
    (entries.foldl unite .empty).get? key =
      if given entries key = [] then none else some (Members.ofList (given entries key)) :=
  get?_foldl_unite_onto entries .empty key

end Accumulation

theorem foldl_merge (sources : List Contribution) (t : RegionTables) :
    sources.foldl merge t =
      ⟨(sources.flatMap Contribution.identities).foldl listIdentity t.identities,
        (sources.flatMap Contribution.bundles).foldl unite t.bundles,
        (sources.flatMap Contribution.features).foldl unite t.features,
        (sources.flatMap Contribution.regions).foldl unite t.regions⟩ := by
  induction sources generalizing t with
  | nil => rfl
  | cons source rest ih => simp only [List.foldl_cons, ih, merge, List.flatMap_cons, List.foldl_append]

theorem ofContributions_eq (sources : List Contribution) :
    ofContributions sources =
      ⟨(sources.flatMap Contribution.identities).foldl listIdentity .empty,
        (sources.flatMap Contribution.bundles).foldl unite .empty,
        (sources.flatMap Contribution.features).foldl unite .empty,
        (sources.flatMap Contribution.regions).foldl unite .empty⟩ :=
  foldl_merge sources empty

theorem get?_identities (sources : List Contribution) (identity : BundleIdentity) :
    ((ofContributions sources).identities.get? identity).getD [] =
      given (sources.flatMap Contribution.identities) identity := by
  rw [ofContributions_eq, get?_foldl_listIdentity]
  split
  · rename_i none
    rw [none]; rfl
  · rfl

end RegionTables
end RegionWiring
