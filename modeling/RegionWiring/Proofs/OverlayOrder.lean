import RegionWiring.Proofs.Enforcement

namespace RegionWiring

namespace RegionTables

variable {α β : Type} [DecidableEq α]

theorem given_perm {entries others : List (α × List β)} (permuted : entries.Perm others) (key : α) :
    (given entries key).Perm (given others key) :=
  (permuted.filter _).flatMap_right Prod.snd

theorem listed_perm {entries others : List (BundleIdentity × List BundleId)} (permuted : entries.Perm others)
    (identity : BundleIdentity) :
    Option.Rel List.Perm ((entries.foldl listIdentity .empty).get? identity)
      ((others.foldl listIdentity .empty).get? identity) := by
  have same := given_perm permuted identity
  rw [get?_foldl_listIdentity, get?_foldl_listIdentity]
  by_cases none : given entries identity = []
  · rw [none] at same
    rw [if_pos none, if_pos same.symm.eq_nil]
    exact .none
  · have something : given others identity ≠ [] := fun empty => none (empty ▸ same).eq_nil
    rw [if_neg none, if_neg something]
    exact .some same

theorem united_perm [DecidableEq β] {entries others : List (α × List β)} (permuted : entries.Perm others) :
    (entries.foldl unite .empty == others.foldl unite .empty) = true := by
  rw [Table.same_iff]
  intro key
  have same := given_perm permuted key
  rw [get?_foldl_unite, get?_foldl_unite]
  by_cases none : given entries key = []
  · rw [none] at same
    rw [if_pos none, if_pos same.symm.eq_nil]
    exact .none
  · have something : given others key ≠ [] := fun empty => none (empty ▸ same).eq_nil
    rw [if_neg none, if_neg something]
    refine .some ((Members.same_iff _ _).2 ?_)
    intro value
    rw [Members.mem_ofList, Members.mem_ofList]
    exact same.mem_iff

-- Tables that differ in order only.
structure Alike (a b : RegionTables) : Prop where
  identities : ∀ identity, Option.Rel List.Perm (a.identities.get? identity) (b.identities.get? identity)
  bundles : (a.bundles == b.bundles) = true
  features : (a.features == b.features) = true
  regions : (a.regions == b.regions) = true

theorem ofContributions_perm {sources others : List Contribution} (permuted : sources.Perm others) :
    Alike (ofContributions sources) (ofContributions others) := by
  rw [ofContributions_eq, ofContributions_eq]
  exact ⟨listed_perm (permuted.flatMap_right _), united_perm (permuted.flatMap_right _),
    united_perm (permuted.flatMap_right _), united_perm (permuted.flatMap_right _)⟩

theorem get?_of_same [DecidableEq β] {a b : Table α (Members β)} (equal : (a == b) = true) (key : α) :
    Option.Rel (fun s t => ∀ x, x ∈ s.items ↔ x ∈ t.items) (a.get? key) (b.get? key) := by
  have related := (Table.same_iff a b).1 equal key
  generalize a.get? key = here, b.get? key = there at related
  cases related with
  | none => exact .none
  | some same => exact .some ((Members.same_iff _ _).1 same)

end RegionTables

-- Only the named region may differ.
inductive Verdict.SameKind : Verdict → Verdict → Prop where
  | same (v : Verdict) : SameKind v v
  | shared (region other : Region) : SameKind (.sharedRegion region) (.sharedRegion other)

theorem Verdict.SameKind.accepted {v w : Verdict} (kind : v.SameKind w) : v.accepted = w.accepted := by
  cases kind <;> rfl

structure WiringDecision.Alike (d e : WiringDecision) : Prop where
  verdict : d.verdict.SameKind e.verdict
  requester : ∀ region, region ∈ d.requesterRegions ↔ region ∈ e.requesterRegions
  exporter : ∀ region, region ∈ d.exporterRegions ↔ region ∈ e.exporterRegions

-- The same sets, possibly in another order.
def Located.Alike (here there : Located) : Prop := ∀ key, (here key).Perm (there key)

namespace EffectivePolicy

theorem locationFeatures_alike {here there : Located} (same : here.Alike there) (v : BundleRevision) (f : FeatureId) :
    f ∈ locationFeatures here v ↔ f ∈ locationFeatures there v := by
  unfold locationFeatures
  cases v.location with
  | none => rfl
  | some location => exact ((same location).map FeatureId.mk).mem_iff

theorem isEmpty_congr {α : Type} {s t : Members α} (members : ∀ x, x ∈ s.items ↔ x ∈ t.items) : s.isEmpty = t.isEmpty := by
  rw [Bool.eq_iff_iff, Members.isEmpty_iff, Members.isEmpty_iff]
  simp only [List.eq_nil_iff_forall_not_mem, members]

section Alike

variable {a b : Snapshot} (alike : a.tables.Alike b.tables) (defaults joined : Members Region)
include alike

theorem bundleIds_alike (v : BundleRevision) (id : BundleId) :
    id ∈ (derive a defaults joined).bundleIds v ↔ id ∈ (derive b defaults joined).bundleIds v := by
  have listed := alike.identities v.identity
  show id ∈ (a.tables.identities.get? v.identity).getD [] ++ _ ↔ id ∈ (b.tables.identities.get? v.identity).getD [] ++ _
  generalize a.tables.identities.get? v.identity = here, b.tables.identities.get? v.identity = there at listed
  rw [List.mem_append, List.mem_append]
  cases listed with
  | none => rfl
  | some permuted => exact or_congr_left permuted.mem_iff

theorem bundleFeatures_alike (id : BundleId) (f : FeatureId) :
    f ∈ (derive a defaults joined).bundleFeatures id ↔ f ∈ (derive b defaults joined).bundleFeatures id := by
  have related := RegionTables.get?_of_same alike.bundles id
  unfold bundleFeatures derive
  generalize a.tables.bundles.get? id = here, b.tables.bundles.get? id = there at related
  cases related with
  | none => rfl
  | some members => exact members f

theorem featureRegions_alike (f : FeatureId) (region : Region) :
    region ∈ (derive a defaults joined).featureRegions f ↔ region ∈ (derive b defaults joined).featureRegions f := by
  have related := RegionTables.get?_of_same alike.features f
  unfold featureRegions derive
  generalize a.tables.features.get? f = here, b.tables.features.get? f = there at related
  cases related with
  | none => rfl
  | some members => exact members region

theorem featuresOf_alike {here there : Located} (same : here.Alike there) (v : BundleRevision) (f : FeatureId) :
    f ∈ ((derive a defaults joined).featuresOf here v).items ↔ f ∈ ((derive b defaults joined).featuresOf there v).items := by
  rw [mem_featuresOf, mem_featuresOf]
  simp only [bundleIds_alike alike, bundleFeatures_alike alike, locationFeatures_alike same]

theorem regionsOf_alike {s t : Members FeatureId} (members : ∀ f, f ∈ s.items ↔ f ∈ t.items) (region : Region) :
    region ∈ ((derive a defaults joined).regionsOf s).items ↔ region ∈ ((derive b defaults joined).regionsOf t).items := by
  rw [mem_regionsOf, mem_regionsOf]
  simp only [members, featureRegions_alike alike]

theorem exposes_alike (region : Region) (package : PackageName) :
    (derive a defaults joined).exposes region package = (derive b defaults joined).exposes region package := by
  refine RegionPackages.exposes_joinGlobal_congr ?_ joined region
  intro r
  have related := RegionTables.get?_of_same alike.regions r
  rw [Bool.eq_iff_iff, RegionPackages.exposes_iff, RegionPackages.exposes_iff]
  generalize a.tables.regions.get? r = here, b.tables.regions.get? r = there at related
  cases related with
  | none => rfl
  | some members => simp [members]

theorem sharedRegion?_alike {r x s y : Members Region} (requester : ∀ region, region ∈ r.items ↔ region ∈ s.items)
    (exporter : ∀ region, region ∈ x.items ↔ region ∈ y.items) (package : PackageName) :
    ((derive a defaults joined).sharedRegion? r x package).isSome = ((derive b defaults joined).sharedRegion? s y package).isSome := by
  rw [Bool.eq_iff_iff, sharedRegion?_isSome_iff, sharedRegion?_isSome_iff]
  simp only [requester, exporter, exposes_alike alike]

theorem verdict_alike {r x s y : Members FeatureId} (requester : ∀ f, f ∈ r.items ↔ f ∈ s.items)
    (exporter : ∀ f, f ∈ x.items ↔ f ∈ y.items) (package : PackageName) :
    ((derive a defaults joined).verdict r x package).SameKind ((derive b defaults joined).verdict s y package) := by
  have visible : (derive a defaults joined).isGlobalPackage package = (derive b defaults joined).isGlobalPackage package :=
    exposes_alike alike defaults joined .global package
  have shared := sharedRegion?_alike alike defaults joined (regionsOf_alike alike defaults joined requester)
    (regionsOf_alike alike defaults joined exporter) package
  unfold verdict
  rw [isEmpty_congr requester, isEmpty_congr exporter, visible]
  split
  · exact .same _
  · split
    · exact .same _
    · split
      · exact .same _
      · split
        · rename_i region found
          rw [found] at shared
          obtain ⟨other, also⟩ := Option.isSome_iff_exists.1 shared.symm
          rw [also]
          exact .shared region other
        · rename_i missing
          rw [missing] at shared
          rw [Option.isNone_iff_eq_none.1 (Option.isSome_eq_false_iff.1 shared.symm)]
          exact .same _

theorem evaluate_alike {here there : Located} (same : here.Alike there) (requester provider : BundleRevision) (package : PackageName) :
    ((derive a defaults joined).evaluate here requester provider package).Alike
      ((derive b defaults joined).evaluate there requester provider package) := by
  have features := featuresOf_alike alike defaults joined same
  exact ⟨verdict_alike alike defaults joined (features requester) (features provider) package,
    regionsOf_alike alike defaults joined (features requester), regionsOf_alike alike defaults joined (features provider)⟩

theorem filterMatches_alike {here there : Located} (same : here.Alike there) (r : Requirement) (candidates : List Capability) :
    (derive a defaults joined).filterMatches here r candidates = (derive b defaults joined).filterMatches there r candidates := by
  have kept : (derive a defaults joined).keeps here r = (derive b defaults joined).keeps there r := by
    funext c
    unfold keeps
    cases c.packageFor r with
    | none => rfl
    | some package => exact (evaluate_alike alike defaults joined same r.requirer c.provider package).verdict.accepted
  rw [filterMatches, filterMatches, kept]

end Alike
end EffectivePolicy

namespace Store

theorem sources_reapplied (base : Contribution) {overlays : List (String × Update)} (distinct : (overlays.map Prod.fst).Nodup) :
    sources base (overlays.map History.reapplied) = base :: overlays.map fun overlay => (contributed overlay).2 := by
  rw [sources, survivors_reapplied overlays distinct]

theorem overlay_order_immaterial (base : Contribution) (defaults joined : Members Region) (registration : Table String String)
    {first second : List (String × Update)} (distinct : (first.map Prod.fst).Nodup) (permuted : first.Perm second) :
    let opened := ofBase base defaults joined registration
    let a := opened.after (first.map History.reapplied)
    let b := opened.after (second.map History.reapplied)
    ((a.tables.bundles == b.tables.bundles) = true ∧ (a.tables.features == b.tables.features) = true ∧
      (a.tables.regions == b.tables.regions) = true) ∧
    (∀ identity, Option.Rel List.Perm (a.tables.identities.get? identity) (b.tables.identities.get? identity)) ∧
    ∀ here there : Located, here.Alike there →
      (∀ requester provider package,
        ((EffectivePolicy.ofStore a).evaluate here requester provider package).Alike
          ((EffectivePolicy.ofStore b).evaluate there requester provider package)) ∧
      ∀ r candidates, (EffectivePolicy.ofStore a).filterMatches here r candidates =
        (EffectivePolicy.ofStore b).filterMatches there r candidates := by
  intro opened a b
  have first_state : Opened base defaults joined a := after_opened base defaults joined registration _
  have second_state : Opened base defaults joined b := after_opened base defaults joined registration _
  have alike : a.tables.Alike b.tables := by
    rw [tables_after, tables_after, sources_reapplied base distinct,
      sources_reapplied base ((permuted.map Prod.fst).nodup_iff.1 distinct)]
    exact RegionTables.ofContributions_perm ((permuted.map _).cons base)
  refine ⟨⟨alike.bundles, alike.features, alike.regions⟩, alike.identities, ?_⟩
  intro here there same
  rw [EffectivePolicy.ofStore, EffectivePolicy.ofStore, first_state.defaults, first_state.joined, second_state.defaults,
    second_state.joined]
  exact ⟨EffectivePolicy.evaluate_alike alike defaults joined same,
    EffectivePolicy.filterMatches_alike alike defaults joined same⟩

def placing (region : String) : Update := SortedTable.empty.insert Key.featureRegions (.text ("f=" ++ region))

-- Both regions expose the package; the one placed first is named.
theorem overlay_order_immaterial_placed :
    let base : Contribution := ⟨[], [(⟨"b:1.0.0"⟩, [⟨"f"⟩])], [], [(⟨"r1"⟩, [⟨"p"⟩]), (⟨"r2"⟩, [⟨"p"⟩])]⟩
    let first := [("one", placing "r1"), ("two", placing "r2")]
    let second := [("two", placing "r2"), ("one", placing "r1")]
    let a := (ofBase base .empty .empty .empty).after (first.map History.reapplied)
    let b := (ofBase base .empty .empty .empty).after (second.map History.reapplied)
    let v : BundleRevision := ⟨⟨"b", ⟨1, 0, 0, none⟩⟩, none⟩
    let d := (EffectivePolicy.ofStore a).evaluate .nowhere v v ⟨"p"⟩
    let e := (EffectivePolicy.ofStore b).evaluate .nowhere v v ⟨"p"⟩
    (first.map Prod.fst).Nodup ∧ first.Perm second ∧ (a.tables.features == b.tables.features) = true ∧ d.Alike e ∧
      d.verdict = .sharedRegion ⟨"r1"⟩ ∧ e.verdict = .sharedRegion ⟨"r2"⟩ := by
  intro base first second a b v d e
  have distinct : (first.map Prod.fst).Nodup := by decide
  have permuted : first.Perm second := .swap _ _ _
  obtain ⟨⟨_, features, _⟩, _, decided⟩ := overlay_order_immaterial base .empty .empty .empty distinct permuted
  exact ⟨distinct, permuted, features, (decided .nowhere .nowhere fun _ => .refl _).1 v v ⟨"p"⟩, by decide +kernel, by decide +kernel⟩

end Store
end RegionWiring
