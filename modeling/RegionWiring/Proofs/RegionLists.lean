import RegionWiring.Proofs.AddedOverlay

namespace RegionWiring

namespace EffectivePolicy

theorem verdict_shared {p : EffectivePolicy} {requester exporter : Members FeatureId} {package : PackageName} {region : Region}
    (named : p.verdict requester exporter package = .sharedRegion region) :
    requester.isEmpty = false ∧ p.isGlobalPackage package = false ∧ p.exposes region package = true := by
  unfold verdict at named
  split at named
  · cases named
  · rename_i bound
    split at named
    · cases named
    · rename_i hidden
      split at named
      · cases named
      · split at named
        · rename_i found
          cases named
          have passed := List.find?_some found
          exact ⟨Bool.eq_false_iff.2 bound, Bool.eq_false_iff.2 hidden, (Bool.and_eq_true_iff.1 passed).2⟩
        · cases named

section Longer

variable (snapshot : Snapshot) {defaults moreDefaults joined moreJoined : Members Region}
  (placed : ∀ region ∈ defaults.items, region ∈ moreDefaults.items)
  (folded : ∀ region ∈ joined.items, region ∈ moreJoined.items)

include placed in
theorem regionsOf_longer (features : Members FeatureId) (region : Region)
    (before : region ∈ ((derive snapshot defaults joined).regionsOf features).items) :
    region ∈ ((derive snapshot moreDefaults moreJoined).regionsOf features).items := by
  rw [mem_regionsOf] at before ⊢
  obtain ⟨f, listed, inside⟩ := before
  refine ⟨f, listed, ?_⟩
  unfold featureRegions derive at inside ⊢
  cases found : snapshot.tables.features.get? f with
  | none =>
      rw [found] at inside
      exact placed region inside
  | some regions =>
      rw [found] at inside
      exact inside

include placed folded in
theorem accepted_longer {located : Located} {requester provider : BundleRevision} {package : PackageName}
    (before : ((derive snapshot defaults joined).evaluate located requester provider package).accepted = true) :
    ((derive snapshot moreDefaults moreJoined).evaluate located requester provider package).accepted = true := by
  refine accepted_mono ?_ ?_ ?_ folded before
  · intro v; rfl
  · intro v; exact regionsOf_longer snapshot placed _
  · intro region shown; exact shown

-- A shared joined region makes its packages common.
theorem verdict_folded {located : Located} {requester provider : BundleRevision} {package : PackageName} {region : Region}
    (named : ((derive snapshot defaults joined).evaluate located requester provider package).verdict = .sharedRegion region)
    (inside : region ∈ moreJoined.items) :
    ((derive snapshot moreDefaults moreJoined).evaluate located requester provider package).verdict = .globalPackage := by
  obtain ⟨bound, hidden, shown⟩ := verdict_shared named
  have other : region ≠ .global := by
    intro same
    subst same
    exact Bool.eq_false_iff.1 hidden shown
  have original := ((RegionPackages.exposes_joinGlobal_other snapshot.tables.regions joined other package).1 shown).2
  have visible : (derive snapshot moreDefaults moreJoined).isGlobalPackage package = true :=
    (RegionPackages.exposes_joinGlobal_global snapshot.tables.regions moreJoined package).2 (.inr ⟨region, inside, original⟩)
  have asking : ((derive snapshot moreDefaults moreJoined).featuresOf located requester).isEmpty = false := bound
  simp [evaluate, verdict, asking, visible]

include placed folded in
theorem filterMatches_longer (located : Located) (r : Requirement) (candidates : List Capability) :
    ((derive snapshot defaults joined).filterMatches located r candidates).Sublist
      ((derive snapshot moreDefaults moreJoined).filterMatches located r candidates) := by
  unfold filterMatches
  split
  · refine List.monotone_filter_right candidates ?_
    intro c kept
    unfold keeps at kept ⊢
    cases asked : c.packageFor r with
    | none => rfl
    | some package =>
        rw [asked] at kept
        exact accepted_longer snapshot placed folded kept
  · exact List.Sublist.refl _

end Longer

-- Acceptance by a joined region becomes acceptance by `global`.
theorem longer_lists_keep_wirings (snapshot : Snapshot) {defaults moreDefaults joined moreJoined : Members Region}
    (placed : ∀ region ∈ defaults.items, region ∈ moreDefaults.items)
    (folded : ∀ region ∈ joined.items, region ∈ moreJoined.items) (located : Nat → Located) (opening : Nat) :
    let before := Hook.regions (derive snapshot defaults joined) opening
    let after := Hook.regions (derive snapshot moreDefaults moreJoined) opening
    (∀ requester provider package,
      before.Accepts located requester provider package → after.Accepts located requester provider package) ∧
    (∀ r candidates, (before.filterMatches located r candidates).Sublist (after.filterMatches located r candidates)) ∧
    ∀ requester provider package region,
      ((derive snapshot defaults joined).evaluate (located opening) requester provider package).verdict = .sharedRegion region →
      region ∈ moreJoined.items →
      ((derive snapshot moreDefaults moreJoined).evaluate (located opening) requester provider package).verdict = .globalPackage := by
  intro before after
  refine ⟨?_, filterMatches_longer snapshot placed folded (located opening), ?_⟩
  · intro requester provider package accepted
    rw [Hook.accepts_regions_iff] at accepted ⊢
    exact accepted_longer snapshot placed folded accepted
  · intro requester provider package region named inside
    exact verdict_folded snapshot named inside

theorem longer_lists_keep_wirings_joined :
    let tables := RegionTables.ofContributions
      [⟨[], [(⟨"a:1.0.0"⟩, [⟨"f"⟩]), (⟨"b:1.0.0"⟩, [⟨"g"⟩])], [(⟨"f"⟩, [⟨"r"⟩])], [(⟨"r"⟩, [⟨"p"⟩])]⟩]
    let defaults : Members Region := .ofList [⟨"r"⟩]
    let moreDefaults : Members Region := .ofList [⟨"unknown"⟩, ⟨"r"⟩]
    let joined : Members Region := .ofList [.global]
    let moreJoined : Members Region := .ofList [.global, ⟨"r"⟩]
    let before := derive ⟨1, tables⟩ defaults joined
    let after := derive ⟨1, tables⟩ moreDefaults moreJoined
    let a : BundleRevision := ⟨⟨"a", ⟨1, 0, 0, none⟩⟩, none⟩
    let b : BundleRevision := ⟨⟨"b", ⟨1, 0, 0, none⟩⟩, none⟩
    (∀ region ∈ defaults.items, region ∈ moreDefaults.items) ∧ (∀ region ∈ joined.items, region ∈ moreJoined.items) ∧
      (Hook.regions before 0).Accepts (fun _ => .nowhere) a b ⟨"p"⟩ ∧ (Hook.regions after 0).Accepts (fun _ => .nowhere) a b ⟨"p"⟩ ∧
      (before.evaluate .nowhere a b ⟨"p"⟩).verdict = .sharedRegion ⟨"r"⟩ ∧
      (after.evaluate .nowhere a b ⟨"p"⟩).verdict = .globalPackage ∧ after.exposes ⟨"r"⟩ ⟨"p"⟩ = false := by
  intro tables defaults moreDefaults joined moreJoined before after a b
  have placed : ∀ region ∈ defaults.items, region ∈ moreDefaults.items := by decide
  have folded : ∀ region ∈ joined.items, region ∈ moreJoined.items := by decide
  obtain ⟨accepts, -, moved⟩ := longer_lists_keep_wirings ⟨1, tables⟩ placed folded (fun _ => .nowhere) 0
  have accepted : (Hook.regions before 0).Accepts (fun _ => .nowhere) a b ⟨"p"⟩ := by
    unfold Hook.Accepts
    decide +kernel
  have named : (before.evaluate .nowhere a b ⟨"p"⟩).verdict = .sharedRegion ⟨"r"⟩ := by decide +kernel
  exact ⟨placed, folded, accepted, accepts a b ⟨"p"⟩ accepted, named, moved a b ⟨"p"⟩ ⟨"r"⟩ named (by decide), by decide +kernel⟩

end EffectivePolicy
end RegionWiring
