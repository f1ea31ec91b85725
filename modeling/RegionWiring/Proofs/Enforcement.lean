import RegionWiring.Proofs.Acceptance
import RegionWiring.Proofs.OverlayHistory
import RegionWiring.Resolver.Enforcer

namespace RegionWiring

abbrev Record := List Contribution

namespace Record
open RegionTables (given)

def ids (e : Record) (v : BundleRevision) : List BundleId :=
  v.bundleId :: given (e.flatMap Contribution.identities) v.identity

def recorded (locations : LocationTable) (v : BundleRevision) : List FeatureId :=
  ((v.location.bind locations.get?).elim [] SortedSet.items).map FeatureId.mk

def features (e : Record) (locations : LocationTable) (v : BundleRevision) : List FeatureId :=
  (e.ids v).flatMap (given (e.flatMap Contribution.bundles)) ++ recorded locations v

-- Features without regions have the default ones.
def featureRegions (e : Record) (defaults : Members Region) (f : FeatureId) : List Region :=
  if given (e.flatMap Contribution.features) f = [] then defaults.items else given (e.flatMap Contribution.features) f

def regions (e : Record) (defaults : Members Region) (locations : LocationTable) (v : BundleRevision) : List Region :=
  (e.features locations v).flatMap (e.featureRegions defaults)

def packages (e : Record) (region : Region) : List PackageName := given (e.flatMap Contribution.regions) region

def common (e : Record) (joined : Members Region) : List PackageName :=
  e.packages .global ++ joined.items.flatMap e.packages

def Permits (e : Record) (defaults joined : Members Region) (locations : LocationTable) (requester provider : BundleRevision)
    (package : PackageName) : Prop :=
  e.features locations requester = [] ∨ package ∈ e.common joined ∨ e.features locations provider = [] ∨
    ∃ region ∈ e.regions defaults locations requester,
      region ∈ e.regions defaults locations provider ∧ package ∈ e.packages region

instance (e : Record) (defaults joined : Members Region) (locations : LocationTable) (requester provider : BundleRevision)
    (package : PackageName) : Decidable (e.Permits defaults joined locations requester provider package) :=
  inferInstanceAs (Decidable (_ ∨ _ ∨ _ ∨ _))

-- The package in question is the capability's own, else the required one.
def keeps (e : Record) (defaults joined : Members Region) (locations : LocationTable) (r : Requirement) (c : Capability) : Bool :=
  match c.package.or r.package with
  | none => true
  | some package => decide (e.Permits defaults joined locations r.requirer c.provider package)

section Lookups

variable {α β : Type} [DecidableEq α] [DecidableEq β]

theorem mem_united (entries : List (α × List β)) (key : α) (value : β) :
    (∃ values, (entries.foldl RegionTables.unite .empty).get? key = some values ∧ value ∈ values.items) ↔
      value ∈ given entries key := by
  rw [RegionTables.get?_foldl_unite]
  by_cases none : given entries key = []
  · simp [none]
  · simp [none, Members.mem_ofList]

end Lookups

theorem locationFeatures_perm (locations : LocationTable) (order : SetOrder) (v : BundleRevision) :
    (EffectivePolicy.locationFeatures (locations.located order) v).Perm (recorded locations v) := by
  unfold EffectivePolicy.locationFeatures recorded LocationTable.located
  cases v.location with
  | none => exact .refl _
  | some location =>
      cases found : locations.get? location with
      | none => simp [found]
      | some features => simpa [found] using (order.whole location features).map FeatureId.mk

variable {e : Record}

theorem exposes_built (region : Region) (package : PackageName) :
    RegionPackages.exposes (RegionTables.ofContributions e).regions region package = true ↔ package ∈ e.packages region := by
  rw [RegionPackages.exposes_iff, RegionTables.ofContributions_eq]
  exact mem_united (e.flatMap Contribution.regions) region package

theorem common_built (joined : Members Region) (package : PackageName) :
    EffectivePolicy.Common (RegionTables.ofContributions e).regions joined package ↔ package ∈ e.common joined := by
  rw [EffectivePolicy.Common, common, List.mem_append, List.mem_flatMap]
  simp only [exposes_built]

section Built

variable {p : EffectivePolicy} (built : p.tables = RegionTables.ofContributions e)
include built

theorem bundleIds_built (v : BundleRevision) (id : BundleId) : id ∈ p.bundleIds v ↔ id ∈ e.ids v := by
  rw [EffectivePolicy.bundleIds, built, RegionTables.get?_identities, ids, List.mem_append, List.mem_singleton, or_comm,
    List.mem_cons]

theorem bundleFeatures_built (id : BundleId) (f : FeatureId) :
    f ∈ p.bundleFeatures id ↔ f ∈ given (e.flatMap Contribution.bundles) id := by
  rw [← mem_united, EffectivePolicy.bundleFeatures, built, RegionTables.ofContributions_eq]
  cases (List.foldl RegionTables.unite Table.empty (e.flatMap Contribution.bundles)).get? id <;> simp

variable (locations : LocationTable) (order : SetOrder)

theorem featuresOf_built (v : BundleRevision) (f : FeatureId) :
    f ∈ (p.featuresOf (locations.located order) v).items ↔ f ∈ e.features locations v := by
  rw [EffectivePolicy.mem_featuresOf, features, List.mem_append, List.mem_flatMap, (locationFeatures_perm locations order v).mem_iff]
  simp only [bundleIds_built built, bundleFeatures_built built]

theorem featuresOf_built_none (v : BundleRevision) :
    (p.featuresOf (locations.located order) v).items = [] ↔ e.features locations v = [] := by
  simp only [List.eq_nil_iff_forall_not_mem, featuresOf_built built]

theorem featureRegions_built (f : FeatureId) (region : Region) :
    region ∈ p.featureRegions f ↔ region ∈ e.featureRegions p.defaultRegions f := by
  rw [EffectivePolicy.featureRegions, featureRegions, built, RegionTables.ofContributions_eq]
  simp only [RegionTables.get?_foldl_unite]
  by_cases none : given (e.flatMap Contribution.features) f = []
  · simp [none]
  · simp [none, Members.mem_ofList]

theorem regionsOf_built (v : BundleRevision) (region : Region) :
    region ∈ (p.regionsOf (p.featuresOf (locations.located order) v)).items ↔ region ∈ e.regions p.defaultRegions locations v := by
  rw [EffectivePolicy.mem_regionsOf, regions, List.mem_flatMap]
  simp only [featuresOf_built built, featureRegions_built built]

end Built

theorem accepted_built {snapshot : Snapshot} (merged : snapshot.tables = RegionTables.ofContributions e)
    (defaults joined : Members Region) (locations : LocationTable) (order : SetOrder) (requester provider : BundleRevision)
    (package : PackageName) :
    ((EffectivePolicy.derive snapshot defaults joined).evaluate (locations.located order) requester provider package).accepted =
      decide (e.Permits defaults joined locations requester provider package) := by
  have built : (EffectivePolicy.derive snapshot defaults joined).tables = RegionTables.ofContributions e := merged
  rw [Bool.eq_iff_iff, EffectivePolicy.derive_accepted_iff rfl, decide_eq_true_iff, Permits, merged]
  simp only [featuresOf_built_none built, regionsOf_built built, exposes_built, common_built]
  rfl

-- Whatever overlays came and went, only the entries of the active ones count.
theorem filterMatches_permitted (base : Contribution) (defaults joined : Members Region) (registration : Table String String)
    (history : History) (locations : Nat → LocationTable) (order : SetOrder) (opening : Nat) (r : Requirement)
    (candidates : List Capability) :
    let policy := EffectivePolicy.ofStore ((Store.ofBase base defaults joined registration).after history)
    Hook.filterMatches (fun opening => (locations opening).located order) r candidates (.regions policy opening) =
      if r.namesp = packageNamespace then
        candidates.filter (keeps (Store.sources base history) defaults joined (locations opening) r)
      else candidates := by
  intro policy
  have state := Store.after_opened base defaults joined registration history
  have merged := Store.tables_after base defaults joined registration history
  have kept : policy.keeps ((locations opening).located order) r = Record.keeps (Store.sources base history) defaults joined (locations opening) r := by
    funext c
    unfold EffectivePolicy.keeps Record.keeps Capability.packageFor
    cases c.package.or r.package with
    | none => rfl
    | some package =>
        show ((EffectivePolicy.derive _ _ _).evaluate _ _ _ _).accepted = _
        rw [state.defaults, state.joined]
        exact accepted_built merged defaults joined (locations opening) order r.requirer c.provider package
  show policy.filterMatches ((locations opening).located order) r candidates = _
  simp [EffectivePolicy.filterMatches, Requirement.isPackage, kept]

end Record
end RegionWiring
