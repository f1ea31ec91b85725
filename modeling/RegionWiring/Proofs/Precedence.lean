import Mathlib.Data.List.Induction
import RegionWiring.Proofs.Acceptance

namespace RegionWiring

universe u v

-- Each item once, in the order of first occurrence.
structure FirstSeen {α : Type u} [DecidableEq α] (listed sequence : List α) : Prop where
  distinct : listed.Nodup
  covers : ∀ a, a ∈ listed ↔ a ∈ sequence
  ordered : listed.Pairwise fun a b => sequence.idxOf a < sequence.idxOf b

namespace Members

variable {α : Type u} {β : Type v} [DecidableEq α] [DecidableEq β]

theorem firstSeen_ofList (items : List α) : FirstSeen (ofList items).items items := by
  refine ⟨(ofList items).distinct, mem_ofList items, ?_⟩
  induction items using List.reverseRecOn with
  | nil => exact .nil
  | append_singleton items a ih =>
      have placed {x : α} (inside : x ∈ (ofList items).items) : (items ++ [a]).idxOf x = items.idxOf x :=
        List.idxOf_append_of_mem ((mem_ofList items x).1 inside)
      have before : (ofList items).items.Pairwise fun x y => (items ++ [a]).idxOf x < (items ++ [a]).idxOf y := by
        refine ih.imp_of_mem fun first second less => ?_
        rwa [placed first, placed second]
      have entered : ofList (items ++ [a]) = (ofList items).insert a := ofList_append items [a]
      rw [entered]
      by_cases present : a ∈ (ofList items).items
      · rwa [insert_present present]
      · rw [items_insert_absent present, List.pairwise_append]
        refine ⟨before, List.pairwise_singleton _ a, ?_⟩
        intro x inside y last
        obtain rfl := List.mem_singleton.1 last
        have absent : y ∉ items := fun there => present ((mem_ofList items y).2 there)
        rw [placed inside, List.idxOf_append_of_notMem absent]
        have bound := List.idxOf_lt_length_of_mem ((mem_ofList items x).1 inside)
        omega

theorem ofList_flatMap_items (items : List α) (f : α → List β) :
    ofList ((ofList items).items.flatMap f) = ofList (items.flatMap f) := by
  induction items using List.reverseRecOn with
  | nil => rfl
  | append_singleton items a ih =>
      have entered : ofList (items ++ [a]) = (ofList items).insert a := ofList_append items [a]
      have last : [a].flatMap f = f a := List.flatMap_singleton f a
      rw [entered, List.flatMap_append, ofList_append, last]
      by_cases present : a ∈ (ofList items).items
      · have brought : ∀ b ∈ f a, b ∈ (ofList (items.flatMap f)).items := fun b inside =>
          (mem_ofList _ b).2 (List.mem_flatMap.2 ⟨a, (mem_ofList items a).1 present, inside⟩)
        rw [insert_present present, ih, union_present brought]
      · rw [items_insert_absent present, List.flatMap_append, ofList_append, last, ih]

end Members

theorem WiringDecision.violation?_isSome_iff (d : WiringDecision) (v : BundleRevision) :
    (d.violation? v).isSome = true ↔ d.verdict = .rejected := by
  unfold violation? accepted
  cases d.verdict <;> simp [Verdict.accepted]

namespace EffectivePolicy

-- By identity, by bundle id, then by location; repetitions stay.
def featureWalk (p : EffectivePolicy) (located : Located) (v : BundleRevision) : List FeatureId :=
  let ids := (p.tables.identities.get? v.identity).getD [] ++ [v.bundleId]
  (ids.flatMap fun id => (p.tables.bundles.get? id).elim [] Members.items) ++
    (v.location.elim [] located).map FeatureId.mk

def regionWalk (p : EffectivePolicy) (located : Located) (v : BundleRevision) : List Region :=
  (p.featureWalk located v).flatMap fun f => (p.tables.features.get? f).elim p.defaultRegions.items Members.items

def Offers (p : EffectivePolicy) (region : Region) (package : PackageName) : Prop :=
  ∃ packages, p.regionPackages.get? region = some packages ∧ package ∈ packages.items

variable (p : EffectivePolicy) (located : Located)

theorem exposes_iff_offers (region : Region) (package : PackageName) : p.exposes region package = true ↔ p.Offers region package :=
  RegionPackages.exposes_iff p.regionPackages region package

theorem featuresOf_walk (v : BundleRevision) : p.featuresOf located v = Members.ofList (p.featureWalk located v) := by
  have ids (id : BundleId) : p.bundleFeatures id = (p.tables.bundles.get? id).elim [] Members.items := by
    unfold bundleFeatures
    cases p.tables.bundles.get? id <;> rfl
  have placed : locationFeatures located v = (v.location.elim [] located).map FeatureId.mk := by
    unfold locationFeatures
    cases v.location <;> rfl
  have all : (fun id => (p.tables.bundles.get? id).elim [] Members.items) = p.bundleFeatures := (funext ids).symm
  rw [featuresOf, featureWalk, bundleIds, placed, all]

theorem regionsOf_walk (v : BundleRevision) :
    p.regionsOf (p.featuresOf located v) = Members.ofList (p.regionWalk located v) := by
  have each : p.featureRegions = fun f => (p.tables.features.get? f).elim p.defaultRegions.items Members.items := by
    funext f
    unfold featureRegions
    cases p.tables.features.get? f <;> rfl
  rw [regionsOf, featuresOf_walk, Members.ofList_flatMap_items, each]
  rfl

theorem isEmpty_featuresOf_iff (v : BundleRevision) :
    (p.featuresOf located v).isEmpty = true ↔ p.featureWalk located v = [] := by
  rw [Members.isEmpty_iff, featuresOf_walk, List.eq_nil_iff_forall_not_mem, List.eq_nil_iff_forall_not_mem]
  simp only [Members.mem_ofList]

def Enforced (requester provider : BundleRevision) (package : PackageName) : Prop :=
  p.featureWalk located requester ≠ [] ∧ p.featureWalk located provider ≠ [] ∧ ¬ p.Offers .global package

-- The first shared region that exposes the package decides.
theorem verdict_cases (requester provider : BundleRevision) (package : PackageName) :
    let d := p.evaluate located requester provider package
    (¬ p.Enforced located requester provider package ∧ d.verdict ∈ [.requesterUnrestricted, .globalPackage, .exporterUnrestricted]) ∨
    (p.Enforced located requester provider package ∧ d.verdict =
      (p.sharedRegion? (p.regionsOf (p.featuresOf located requester)) (p.regionsOf (p.featuresOf located provider)) package).elim
        .rejected .sharedRegion) := by
  intro d
  have visible_iff : p.isGlobalPackage package = true ↔ p.Offers .global package := exposes_iff_offers p .global package
  show (_ ∧ p.verdict _ _ package ∈ _) ∨ (_ ∧ p.verdict _ _ package = _)
  unfold verdict
  split
  · rename_i free
    exact .inl ⟨fun enforced => enforced.1 ((isEmpty_featuresOf_iff p located requester).1 free), by simp⟩
  rename_i bound
  split
  · rename_i visible
    exact .inl ⟨fun enforced => enforced.2.2 (visible_iff.1 visible), by simp⟩
  rename_i hidden
  split
  · rename_i unbound
    exact .inl ⟨fun enforced => enforced.2.1 ((isEmpty_featuresOf_iff p located provider).1 unbound), by simp⟩
  rename_i placed
  refine .inr ⟨⟨?_, ?_, ?_⟩, ?_⟩
  · exact fun none => bound ((isEmpty_featuresOf_iff p located requester).2 none)
  · exact fun none => placed ((isEmpty_featuresOf_iff p located provider).2 none)
  · exact fun offered => hidden (visible_iff.2 offered)
  · cases p.sharedRegion? _ _ package <;> rfl

theorem verdict_eq_sharedRegion_iff (requester provider : BundleRevision) (package : PackageName) (region : Region) :
    (p.evaluate located requester provider package).verdict = .sharedRegion region ↔
      p.Enforced located requester provider package ∧
        p.sharedRegion? (p.regionsOf (p.featuresOf located requester)) (p.regionsOf (p.featuresOf located provider)) package =
          some region := by
  rcases verdict_cases p located requester provider package with ⟨free, unrestricted⟩ | ⟨bound, decided⟩
  · refine iff_of_false (fun named => ?_) fun both => free both.1
    rw [named] at unrestricted
    simp at unrestricted
  · rw [decided]
    cases p.sharedRegion? _ _ package <;> simp [bound]

theorem verdict_eq_rejected_iff (requester provider : BundleRevision) (package : PackageName) :
    (p.evaluate located requester provider package).verdict = .rejected ↔
      p.Enforced located requester provider package ∧
        p.sharedRegion? (p.regionsOf (p.featuresOf located requester)) (p.regionsOf (p.featuresOf located provider)) package =
          none := by
  rcases verdict_cases p located requester provider package with ⟨free, unrestricted⟩ | ⟨bound, decided⟩
  · refine iff_of_false (fun refused => ?_) fun both => free both.1
    rw [refused] at unrestricted
    simp at unrestricted
  · rw [decided]
    cases p.sharedRegion? _ _ package <;> simp [bound]

section Shared

variable {p} {requester exporter : Members Region} {package : PackageName}

theorem shares_iff (region : Region) : (exporter.contains region && p.exposes region package) = true ↔
    region ∈ exporter.items ∧ p.Offers region package := by
  rw [Bool.and_eq_true_iff, Members.contains_iff, exposes_iff_offers]

theorem sharedRegion?_eq_some_iff (region : Region) : p.sharedRegion? requester exporter package = some region ↔
    ∃ before after, requester.items = before ++ region :: after ∧ (region ∈ exporter.items ∧ p.Offers region package) ∧
      ∀ earlier ∈ before, ¬ (earlier ∈ exporter.items ∧ p.Offers earlier package) := by
  rw [sharedRegion?, List.find?_eq_some_iff_append]
  simp only [Bool.not_eq_true', ← Bool.not_eq_true, shares_iff]
  constructor
  · rintro ⟨qualifies, before, after, parts, none⟩
    exact ⟨before, after, parts, qualifies, none⟩
  · rintro ⟨before, after, parts, qualifies, none⟩
    exact ⟨qualifies, before, after, parts, none⟩

theorem sharedRegion?_eq_none_iff : p.sharedRegion? requester exporter package = none ↔
    ∀ region ∈ requester.items, ¬ (region ∈ exporter.items ∧ p.Offers region package) := by
  rw [sharedRegion?, List.find?_eq_none]
  simp only [shares_iff]

end Shared

theorem decision_by_precedence (requester provider : BundleRevision) (package : PackageName) :
    let d := p.evaluate located requester provider package
    let qualifies := fun region => region ∈ d.exporterRegions ∧ p.Offers region package
    FirstSeen d.requesterRegions (p.regionWalk located requester) ∧
    FirstSeen d.exporterRegions (p.regionWalk located provider) ∧
    (∀ region, d.verdict = .sharedRegion region ↔ p.Enforced located requester provider package ∧
      ∃ before after, d.requesterRegions = before ++ region :: after ∧ qualifies region ∧ ∀ earlier ∈ before, ¬ qualifies earlier) ∧
    (d.verdict = .rejected ↔ p.Enforced located requester provider package ∧ ∀ region ∈ d.requesterRegions, ¬ qualifies region) ∧
    ∀ (told : WiringDecision) (v : BundleRevision), (told.violation? v).isSome = true ↔ told.verdict = .rejected := by
  intro d qualifies
  have listed (v : BundleRevision) : FirstSeen (p.regionsOf (p.featuresOf located v)).items (p.regionWalk located v) := by
    rw [regionsOf_walk]
    exact Members.firstSeen_ofList _
  refine ⟨listed requester, listed provider, ?_, ?_, WiringDecision.violation?_isSome_iff⟩
  · intro region
    exact (verdict_eq_sharedRegion_iff p located requester provider package region).trans
      (and_congr_right fun _ => sharedRegion?_eq_some_iff region)
  · exact (verdict_eq_rejected_iff p located requester provider package).trans
      (and_congr_right fun _ => sharedRegion?_eq_none_iff)

end EffectivePolicy
end RegionWiring
