import RegionWiring.Proofs.Contributions
import RegionWiring.Proofs.Merging

namespace RegionWiring

namespace RegionTables

section Gathering

variable {α β γ : Type} [DecidableEq α]

theorem keys_accumulate (default : γ) (add : γ → List β → γ) (t : Table α γ) (entry : α × List β) :
    (accumulate default add t entry).keys = if entry.2 = [] then t.keys else Members.enter t.keys entry.1 := by
  unfold accumulate
  split
  · rfl
  · exact Table.keys_insert _ _ _

def givenKeys (entries : List (α × List β)) : List α := ((entries.filter fun entry => entry.2 ≠ []).map Prod.fst).eraseDups

theorem keys_foldl_accumulate (default : γ) (add : γ → List β → γ) (entries : List (α × List β)) (t : Table α γ) :
    (entries.foldl (accumulate default add) t).keys =
      ((entries.filter fun entry => entry.2 ≠ []).map Prod.fst).foldl Members.enter t.keys := by
  induction entries generalizing t with
  | nil => rfl
  | cons entry rest ih =>
      rw [List.foldl_cons, ih, keys_accumulate]
      by_cases none : entry.2 = [] <;> simp [none]

theorem keys_gathered (default : γ) (add : γ → List β → γ) (entries : List (α × List β)) :
    (entries.foldl (accumulate default add) .empty).keys = givenKeys entries := by
  have all : (((entries.filter fun entry => entry.2 ≠ []).map Prod.fst).filter fun key => key ∉ ([] : List α)) =
      (entries.filter fun entry => entry.2 ≠ []).map Prod.fst := List.filter_eq_self.2 (by simp)
  rw [keys_foldl_accumulate]
  exact (Members.foldl_enter _ []).trans (congrArg List.eraseDups all)

-- `gather` makes one value of all the values of a key.
structure Gathers (gather : List β → List β) (entries : List (α × List β)) (t : Table α (List β)) : Prop where
  present : ∀ key, key ∈ t.keys ↔ ∃ entry ∈ entries, entry.1 = key ∧ entry.2 ≠ []
  order : t.keys = givenKeys entries
  values : ∀ key, t.get? key = if given entries key = [] then none else some (gather (given entries key))
  filled : ∀ entry ∈ t.entries, entry.2 ≠ []

theorem given_eq_nil (entries : List (α × List β)) (key : α) :
    given entries key ≠ [] ↔ ∃ entry ∈ entries, entry.1 = key ∧ entry.2 ≠ [] := by
  simp [given]

theorem gathers_of {gather : List β → List β} {entries : List (α × List β)} {t : Table α (List β)}
    (order : t.keys = givenKeys entries)
    (values : ∀ key, t.get? key = if given entries key = [] then none else some (gather (given entries key)))
    (something : ∀ values, values ≠ [] → gather values ≠ []) : Gathers gather entries t := by
  refine ⟨?_, order, values, ?_⟩
  · intro key
    rw [Table.mem_keys_iff, values, ← given_eq_nil]
    by_cases none : given entries key = [] <;> simp [none]
  · intro entry inside
    obtain ⟨key, listed⟩ := entry
    have found := values key
    rw [(Table.get?_eq_some_iff t key listed).2 inside] at found
    split at found
    · cases found
    · rename_i given
      cases found
      exact something _ given

theorem gathers_listIdentity (entries : List (BundleIdentity × List BundleId)) :
    Gathers id entries (entries.foldl listIdentity .empty) :=
  gathers_of (keys_gathered _ _ entries) (get?_foldl_listIdentity entries) fun _ something => something

def listed (t : Table α (Members β)) : Table α (List β) := t.mapValues fun _ members => members.items

theorem gathers_unite [DecidableEq β] (entries : List (α × List β)) :
    Gathers List.eraseDups entries (listed (entries.foldl unite .empty)) := by
  apply gathers_of
  · rw [listed, Table.keys_mapValues]
    exact keys_gathered _ _ entries
  · intro key
    rw [listed, Table.get?_mapValues, get?_foldl_unite]
    split
    · rfl
    · rw [Option.map_some, Members.items_ofList]
  · intro values something
    obtain ⟨value, inside⟩ := List.exists_mem_of_ne_nil values something
    exact List.ne_nil_of_mem (List.mem_eraseDups.2 inside)

end Gathering

end RegionTables

def Contribution.concat (sources : List Contribution) : Contribution :=
  ⟨sources.flatMap identities, sources.flatMap bundles, sources.flatMap features, sources.flatMap regions⟩

namespace RegionTables
open Contribution (identified)

theorem foldl_merge_concat (sources : List Contribution) (t : RegionTables) :
    sources.foldl merge t = t.merge (.concat sources) :=
  foldl_merge sources t

def idsSpelled (entries : List Properties.Entry) (identity : BundleIdentity) : List BundleId :=
  (entries.filter fun entry => (BundleIdentity.read entry.key).toOption = some identity).flatMap fun entry =>
    entry.values.map BundleId.mk

theorem given_identified (entries : List Properties.Entry) (identity : BundleIdentity) :
    given (entries.filterMap identified) identity = idsSpelled entries identity := by
  induction entries with
  | nil => rfl
  | cons entry rest ih =>
      cases named : (BundleIdentity.read entry.key).toOption with
      | none =>
          have skipped : identified entry = none := by rw [identified, named]; rfl
          rw [List.filterMap_cons_none skipped, ih]
          simp [idsSpelled, named]
      | some other =>
          have kept : identified entry = some (other, entry.values.map BundleId.mk) := by rw [identified, named]; rfl
          rw [List.filterMap_cons_some kept, given_cons, ih]
          by_cases same : other = identity <;> simp [idsSpelled, named, same]

theorem get?_spelled (entries : List Properties.Entry) (identity : BundleIdentity) :
    (ofContributions [{ Contribution.empty with identities := entries.filterMap identified }]).identities.get? identity =
      if idsSpelled entries identity = [] then none else some (idsSpelled entries identity) := by
  rw [← given_identified, ofContributions_eq]
  simpa using get?_foldl_listIdentity (entries.filterMap identified) identity

-- Sources merged in their order are one source with all their entries.
theorem merging_accumulates (sources : List Contribution) :
    let tables := ofContributions sources
    Gathers id (sources.flatMap Contribution.identities) tables.identities ∧
    Gathers List.eraseDups (sources.flatMap Contribution.bundles) (listed tables.bundles) ∧
    Gathers List.eraseDups (sources.flatMap Contribution.features) (listed tables.features) ∧
    Gathers List.eraseDups (sources.flatMap Contribution.regions) (listed tables.regions) ∧
    (∀ t : RegionTables, sources.foldl merge t = t.merge (.concat sources)) ∧
    (∀ entries identity,
      (ofContributions [{ Contribution.empty with identities := entries.filterMap identified }]).identities.get? identity =
        if idsSpelled entries identity = [] then none else some (idsSpelled entries identity)) ∧
    BundleIdentity.read "b~1" = .ok ⟨"b", ⟨1, 0, 0, none⟩⟩ ∧ BundleIdentity.read "b~1.0.0" = .ok ⟨"b", ⟨1, 0, 0, none⟩⟩ := by
  intro tables
  have merged : tables = _ := ofContributions_eq sources
  rw [merged]
  exact ⟨gathers_listIdentity _, gathers_unite _, gathers_unite _, gathers_unite _, foldl_merge_concat sources, get?_spelled,
    by decide +kernel, by decide +kernel⟩

-- An entry without values makes no key.
example :
    let tables := ofContributions [
      ⟨[(⟨"b", .zero⟩, [⟨"1"⟩, ⟨"1"⟩])], [], [(⟨"f"⟩, []), (⟨"g"⟩, [⟨"r"⟩])], []⟩,
      ⟨[(⟨"b", .zero⟩, [⟨"1"⟩])], [], [(⟨"f"⟩, [⟨"s"⟩, ⟨"r"⟩, ⟨"s"⟩]), (⟨"g"⟩, [⟨"r"⟩, ⟨"q"⟩])], []⟩]
    tables.identities.entries = [(⟨"b", .zero⟩, [⟨"1"⟩, ⟨"1"⟩, ⟨"1"⟩])] ∧
      (listed tables.features).entries = [(⟨"g"⟩, [⟨"r"⟩, ⟨"q"⟩]), (⟨"f"⟩, [⟨"s"⟩, ⟨"r"⟩])] := by decide +kernel

end RegionTables
end RegionWiring
