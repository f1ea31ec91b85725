import RegionWiring.Policy.Evaluation
import RegionWiring.Proofs.Joining

namespace RegionWiring
namespace EffectivePolicy

theorem sharedRegion?_isSome_iff (p : EffectivePolicy) (requester exporter : Members Region) (package : PackageName) :
    (p.sharedRegion? requester exporter package).isSome = true ↔
      ∃ region ∈ requester.items, region ∈ exporter.items ∧ p.exposes region package = true := by
  rw [sharedRegion?, List.find?_isSome]
  constructor
  · rintro ⟨region, listed, passed⟩
    obtain ⟨shared, exposed⟩ := Bool.and_eq_true_iff.1 passed
    exact ⟨region, listed, (Members.contains_iff exporter region).1 shared, exposed⟩
  · rintro ⟨region, listed, shared, exposed⟩
    exact ⟨region, listed, Bool.and_eq_true_iff.2 ⟨(Members.contains_iff exporter region).2 shared, exposed⟩⟩

theorem verdict_accepted_iff (p : EffectivePolicy) (requester exporter : Members FeatureId) (package : PackageName) :
    (p.verdict requester exporter package).accepted = true ↔
      requester.items = [] ∨ p.isGlobalPackage package = true ∨ exporter.items = [] ∨
        ∃ region ∈ (p.regionsOf requester).items, region ∈ (p.regionsOf exporter).items ∧ p.exposes region package = true := by
  unfold verdict
  by_cases free : requester.isEmpty = true
  · simp [free, (Members.isEmpty_iff requester).1 free, Verdict.accepted]
  · have bound : requester.items ≠ [] := fun none => free ((Members.isEmpty_iff requester).2 none)
    by_cases visible : p.isGlobalPackage package = true
    · simp [free, visible, Verdict.accepted]
    · by_cases unbound : exporter.isEmpty = true
      · simp [free, visible, unbound, (Members.isEmpty_iff exporter).1 unbound, Verdict.accepted]
      · have placed : exporter.items ≠ [] := fun none => unbound ((Members.isEmpty_iff exporter).2 none)
        rw [← sharedRegion?_isSome_iff]
        cases p.sharedRegion? (p.regionsOf requester) (p.regionsOf exporter) package with
        | none => simp [free, bound, visible, unbound, placed, Verdict.accepted]
        | some region => simp [free, visible, unbound, Verdict.accepted]

theorem mem_regionsOf (p : EffectivePolicy) (features : Members FeatureId) (region : Region) :
    region ∈ (p.regionsOf features).items ↔ ∃ feature ∈ features.items, region ∈ p.featureRegions feature := by
  rw [regionsOf, Members.mem_ofList, List.mem_flatMap]

theorem mem_featuresOf (p : EffectivePolicy) (located : Located) (r : BundleRevision) (feature : FeatureId) :
    feature ∈ (p.featuresOf located r).items ↔
      (∃ id ∈ p.bundleIds r, feature ∈ p.bundleFeatures id) ∨ feature ∈ locationFeatures located r := by
  rw [featuresOf, Members.mem_ofList, List.mem_append, List.mem_flatMap]

def Common (t : RegionPackages) (joined : Members Region) (package : PackageName) : Prop :=
  t.exposes .global package = true ∨ ∃ region ∈ joined.items, t.exposes region package = true

-- A joined region exposes nothing itself, but its packages have become common.
theorem derive_accepted_iff {p : EffectivePolicy} {snapshot : Snapshot} {defaultRegions joinedRegions : Members Region}
    (derived : p = derive snapshot defaultRegions joinedRegions) (located : Located)
    (requester provider : BundleRevision) (package : PackageName) :
    (p.evaluate located requester provider package).accepted = true ↔
      (p.featuresOf located requester).items = [] ∨ Common snapshot.tables.regions joinedRegions package ∨
        (p.featuresOf located provider).items = [] ∨
        ∃ region ∈ (p.regionsOf (p.featuresOf located requester)).items,
          region ∈ (p.regionsOf (p.featuresOf located provider)).items ∧
            RegionPackages.exposes snapshot.tables.regions region package = true := by
  subst derived
  have common : (derive snapshot defaultRegions joinedRegions).isGlobalPackage package = true ↔
      Common snapshot.tables.regions joinedRegions package :=
    RegionPackages.exposes_joinGlobal_global snapshot.tables.regions joinedRegions package
  rw [WiringDecision.accepted, evaluate, verdict_accepted_iff, common]
  constructor
  · rintro (free | visible | unbound | ⟨region, listed, shared, exposed⟩)
    · exact .inl free
    · exact .inr (.inl visible)
    · exact .inr (.inr (.inl unbound))
    · by_cases isGlobal : region = .global
      · subst isGlobal
        exact .inr (.inl (common.1 exposed))
      · have before := ((RegionPackages.exposes_joinGlobal_other _ joinedRegions isGlobal package).1 exposed).2
        exact .inr (.inr (.inr ⟨region, listed, shared, before⟩))
  · rintro (free | visible | unbound | ⟨region, listed, shared, before⟩)
    · exact .inl free
    · exact .inr (.inl visible)
    · exact .inr (.inr (.inl unbound))
    · by_cases isGlobal : region = .global
      · subst isGlobal
        exact .inr (.inl (.inl before))
      · by_cases joined : region ∈ joinedRegions.items
        · exact .inr (.inl (.inr ⟨region, joined, before⟩))
        · have after := (RegionPackages.exposes_joinGlobal_other _ joinedRegions isGlobal package).2 ⟨joined, before⟩
          exact .inr (.inr (.inr ⟨region, listed, shared, after⟩))

-- More features, regions or packages never lose a wiring.
theorem accepted_mono {a b : Snapshot} {defaults moreDefaults joined moreJoined : Members Region} {located : Located}
    {requester provider : BundleRevision} {package : PackageName}
    (features : ∀ v, (derive b moreDefaults moreJoined).featuresOf located v = (derive a defaults joined).featuresOf located v)
    (regions : ∀ v, ∀ region ∈ ((derive a defaults joined).regionsOf ((derive a defaults joined).featuresOf located v)).items,
      region ∈ ((derive b moreDefaults moreJoined).regionsOf ((derive a defaults joined).featuresOf located v)).items)
    (exposed : ∀ region, RegionPackages.exposes a.tables.regions region package = true →
      RegionPackages.exposes b.tables.regions region package = true)
    (folded : ∀ region ∈ joined.items, region ∈ moreJoined.items)
    (before : ((derive a defaults joined).evaluate located requester provider package).accepted = true) :
    ((derive b moreDefaults moreJoined).evaluate located requester provider package).accepted = true := by
  rw [derive_accepted_iff rfl] at before ⊢
  rw [features, features]
  rcases before with free | (shown | ⟨region, listed, shown⟩) | unbound | ⟨region, asked, offered, shown⟩
  · exact .inl free
  · exact .inr (.inl (.inl (exposed .global shown)))
  · exact .inr (.inl (.inr ⟨region, folded region listed, exposed region shown⟩))
  · exact .inr (.inr (.inl unbound))
  · exact .inr (.inr (.inr ⟨region, regions requester region asked, regions provider region offered, exposed region shown⟩))

end EffectivePolicy
end RegionWiring
