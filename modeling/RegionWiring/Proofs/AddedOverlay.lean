import RegionWiring.Proofs.Acceptance
import RegionWiring.Proofs.PolicyCache

namespace RegionWiring

namespace RegionTables

theorem given_eq_nil_iff {α β : Type} [DecidableEq α] (entries : List (α × List β)) (key : α) :
    given entries key = [] ↔ ∀ entry ∈ entries, entry.2 ≠ [] → entry.1 ≠ key := by
  rw [given, List.flatMap_eq_nil_iff]
  constructor
  · intro silent entry listed something same
    exact something (silent entry (List.mem_filter.2 ⟨listed, decide_eq_true same⟩))
  · intro absent entry chosen
    obtain ⟨listed, same⟩ := List.mem_filter.1 chosen
    by_contra something
    exact absent entry listed something (of_decide_eq_true same)

section Merge

variable (t : RegionTables) {c : Contribution}

theorem identities_merge {identity : BundleIdentity} (silent : given c.identities identity = []) :
    (t.merge c).identities.get? identity = t.identities.get? identity :=
  (get?_foldl_listIdentity_onto c.identities t.identities identity).trans (if_pos silent)

theorem bundles_merge {id : BundleId} (silent : given c.bundles id = []) :
    (t.merge c).bundles.get? id = t.bundles.get? id :=
  (get?_foldl_unite_onto c.bundles t.bundles id).trans (if_pos silent)

theorem features_merge {f : FeatureId} (silent : given c.features f = []) :
    (t.merge c).features.get? f = t.features.get? f :=
  (get?_foldl_unite_onto c.features t.features f).trans (if_pos silent)

theorem features_merge_onto {f : FeatureId} {regions : Members Region} (found : t.features.get? f = some regions) :
    ∃ wider, (t.merge c).features.get? f = some wider ∧ ∀ region ∈ regions.items, region ∈ wider.items := by
  by_cases silent : given c.features f = []
  · exact ⟨regions, (features_merge t silent).trans found, fun _ inside => inside⟩
  · refine ⟨regions.union (given c.features f), ?_, fun region inside => (Members.mem_union _ _ _).2 (.inl inside)⟩
    show (c.features.foldl unite t.features).get? f = _
    rw [get?_foldl_unite_onto, if_neg silent, found]
    rfl

theorem exposes_merge (region : Region) (package : PackageName) :
    RegionPackages.exposes (t.merge c).regions region package = true ↔
      RegionPackages.exposes t.regions region package = true ∨ package ∈ given c.regions region := by
  rw [RegionPackages.exposes_iff, RegionPackages.exposes_iff]
  show (∃ packages, (c.regions.foldl unite t.regions).get? region = some packages ∧ _) ↔ _
  rw [get?_foldl_unite_onto]
  by_cases silent : given c.regions region = []
  · simp [silent]
  · cases t.regions.get? region <;> simp [silent, Members.mem_union, Members.empty]

end Merge
end RegionTables

namespace Store

theorem tables_added {base : Contribution} {defaults joined : Members Region} {s : Store}
    (valid : Opened base defaults joined s) {id : String} (inactive : id ∉ s.overlayIds) (update : Update) :
    (s.change (.apply id update)).tables = s.tables.merge (contributed (id, update)).2 := by
  have behind : contributions base (s.change (.apply id update)).overlays =
      contributions base s.overlays ++ [(contributed (id, update)).2] := by
    show base :: (s.overlays.insert id _).entries.map Prod.snd = _
    rw [Table.entries_insert_absent _ _ _ inactive, List.map_append]
    rfl
  rw [(change_opened valid _).tables, behind, RegionTables.ofContributions, List.foldl_append, valid.tables]
  rfl

end Store

namespace EffectivePolicy

section Agreement

-- Both policies find the same features and regions for a revision.
structure AgreeOn (p q : EffectivePolicy) (located : Located) (v : BundleRevision) : Prop where
  identities : p.tables.identities.get? v.identity = q.tables.identities.get? v.identity
  bundles : ∀ id ∈ p.bundleIds v, p.tables.bundles.get? id = q.tables.bundles.get? id
  features : ∀ f ∈ (p.featuresOf located v).items, p.tables.features.get? f = q.tables.features.get? f

variable {p q : EffectivePolicy} {located : Located} {v : BundleRevision}

theorem featuresOf_congr (identities : p.tables.identities.get? v.identity = q.tables.identities.get? v.identity)
    (bundles : ∀ id ∈ p.bundleIds v, p.tables.bundles.get? id = q.tables.bundles.get? id) :
    p.featuresOf located v = q.featuresOf located v := by
  have ids : p.bundleIds v = q.bundleIds v := by rw [bundleIds, bundleIds, identities]
  have each : (p.bundleIds v).flatMap p.bundleFeatures = (p.bundleIds v).flatMap q.bundleFeatures := by
    apply List.flatMap_congr
    intro id listed
    rw [bundleFeatures, bundleFeatures, bundles id listed]
  rw [featuresOf, featuresOf, each, ids]

theorem AgreeOn.featuresOf_eq (agree : AgreeOn p q located v) : p.featuresOf located v = q.featuresOf located v :=
  featuresOf_congr agree.identities agree.bundles

theorem AgreeOn.regionsOf_eq (agree : AgreeOn p q located v) (defaults : p.defaultRegions = q.defaultRegions) :
    p.regionsOf (p.featuresOf located v) = q.regionsOf (q.featuresOf located v) := by
  have each : (p.featuresOf located v).items.flatMap p.featureRegions = (p.featuresOf located v).items.flatMap q.featureRegions := by
    apply List.flatMap_congr
    intro f listed
    rw [featureRegions, featureRegions, agree.features f listed, defaults]
  rw [regionsOf, regionsOf, each, agree.featuresOf_eq]

theorem evaluate_agree {requester provider : BundleRevision} {package : PackageName}
    (defaults : p.defaultRegions = q.defaultRegions) (asking : AgreeOn p q located requester)
    (offering : AgreeOn p q located provider) (exposed : ∀ region, p.exposes region package = q.exposes region package) :
    p.evaluate located requester provider package = q.evaluate located requester provider package := by
  have visible : p.isGlobalPackage package = q.isGlobalPackage package := exposed .global
  have shared (r x : Members Region) : p.sharedRegion? r x package = q.sharedRegion? r x package := by
    rw [sharedRegion?, sharedRegion?]
    simp only [exposed]
  rw [evaluate, evaluate, verdict, verdict, visible, shared, asking.regionsOf_eq defaults, offering.regionsOf_eq defaults,
    asking.featuresOf_eq, offering.featuresOf_eq]

end Agreement

section Locality

-- No entry with a value speaks of the revision, its bundle ids or its features.
structure Untouched (p : EffectivePolicy) (located : Located) (c : Contribution) (v : BundleRevision) : Prop where
  identities : ∀ entry ∈ c.identities, entry.2 ≠ [] → entry.1 ≠ v.identity
  bundles : ∀ entry ∈ c.bundles, entry.2 ≠ [] → entry.1 ∉ p.bundleIds v
  features : ∀ entry ∈ c.features, entry.2 ≠ [] → entry.1 ∉ (p.featuresOf located v).items

variable {p q : EffectivePolicy} {located : Located} {c : Contribution} {v : BundleRevision}

theorem Untouched.agreeOn (untouched : Untouched p located c v) (merged : q.tables = p.tables.merge c) :
    AgreeOn p q located v := by
  refine ⟨?_, ?_, ?_⟩
  · rw [merged, RegionTables.identities_merge]
    exact (RegionTables.given_eq_nil_iff _ _).2 untouched.identities
  · intro id listed
    rw [merged, RegionTables.bundles_merge]
    exact (RegionTables.given_eq_nil_iff _ _).2 fun entry member something same =>
      untouched.bundles entry member something (same ▸ listed)
  · intro f listed
    rw [merged, RegionTables.features_merge]
    exact (RegionTables.given_eq_nil_iff _ _).2 fun entry member something same =>
      untouched.features entry member something (same ▸ listed)

end Locality

section Widening

-- Identities and bundles stay; features change only where they have regions already.
structure Widens (t : RegionTables) (c : Contribution) : Prop where
  identities : ∀ entry ∈ c.identities, entry.2 = []
  bundles : ∀ entry ∈ c.bundles, entry.2 = []
  features : ∀ entry ∈ c.features, entry.2 ≠ [] → t.features.contains entry.1 = true

variable {a b : Snapshot} {c : Contribution} (widens : Widens a.tables c) (merged : b.tables = a.tables.merge c)
  (defaults joined : Members Region)

include widens merged in
theorem featuresOf_widened (located : Located) (v : BundleRevision) :
    (derive b defaults joined).featuresOf located v = (derive a defaults joined).featuresOf located v := by
  apply featuresOf_congr
  · show b.tables.identities.get? v.identity = a.tables.identities.get? v.identity
    rw [merged, RegionTables.identities_merge]
    exact (RegionTables.given_eq_nil_iff _ _).2 fun entry member something => absurd (widens.identities entry member) something
  · intro id _
    show b.tables.bundles.get? id = a.tables.bundles.get? id
    rw [merged, RegionTables.bundles_merge]
    exact (RegionTables.given_eq_nil_iff _ _).2 fun entry member something => absurd (widens.bundles entry member) something

include widens merged in
theorem featureRegions_widened (f : FeatureId) {region : Region} (before : region ∈ (derive a defaults joined).featureRegions f) :
    region ∈ (derive b defaults joined).featureRegions f := by
  unfold featureRegions derive at before ⊢
  cases found : a.tables.features.get? f with
  | none =>
      have silent : RegionTables.given c.features f = [] := by
        refine (RegionTables.given_eq_nil_iff _ _).2 fun entry member something same => ?_
        have there := widens.features entry member something
        rw [same, Table.contains, found] at there
        cases there
      rw [found] at before
      rw [merged, RegionTables.features_merge _ silent, found]
      exact before
  | some regions =>
      obtain ⟨wider, still, grown⟩ := RegionTables.features_merge_onto a.tables (c := c) found
      rw [found] at before
      rw [merged, still]
      exact grown region before

include widens merged in
theorem regionsOf_widened (features : Members FeatureId) (region : Region)
    (before : region ∈ ((derive a defaults joined).regionsOf features).items) :
    region ∈ ((derive b defaults joined).regionsOf features).items := by
  rw [mem_regionsOf] at before ⊢
  obtain ⟨f, listed, inside⟩ := before
  exact ⟨f, listed, featureRegions_widened widens merged defaults joined f inside⟩

include merged in
theorem exposes_widened {region : Region} {package : PackageName}
    (before : RegionPackages.exposes a.tables.regions region package = true) :
    RegionPackages.exposes b.tables.regions region package = true := by
  rw [merged, RegionTables.exposes_merge]
  exact .inl before

include widens merged in
theorem accepted_widened {located : Located} {requester provider : BundleRevision} {package : PackageName}
    (before : ((derive a defaults joined).evaluate located requester provider package).accepted = true) :
    ((derive b defaults joined).evaluate located requester provider package).accepted = true :=
  accepted_mono (featuresOf_widened widens merged defaults joined located)
    (fun _ => regionsOf_widened widens merged defaults joined _) (fun _ => exposes_widened merged) (fun _ listed => listed) before

end Widening
end EffectivePolicy

namespace Store

theorem overlay_local (base : Contribution) (defaults joined : Members Region) (registration : Table String String)
    (history : History) (id : String) (update : Update) (located : Located) (requester provider : BundleRevision)
    (package : PackageName) :
    let s := (ofBase base defaults joined registration).after history
    let c := (contributed (id, update)).2
    id ∉ s.overlayIds →
    (EffectivePolicy.ofStore s).Untouched located c requester →
    (EffectivePolicy.ofStore s).Untouched located c provider →
    (∀ entry ∈ c.regions, package ∉ entry.2) →
    (EffectivePolicy.ofStore (s.applyOverlay id update).value).evaluate located requester provider package =
      (EffectivePolicy.ofStore s).evaluate located requester provider package := by
  intro s c inactive asking offering unlisted
  have state : Opened base defaults joined s := after_opened base defaults joined registration history
  have facts := change_facts s (.apply id update)
  have merged : (s.change (.apply id update)).tables = s.tables.merge c := tables_added state inactive update
  symm
  refine EffectivePolicy.evaluate_agree facts.1.symm (asking.agreeOn merged) (offering.agreeOn merged) ?_
  intro region
  show RegionPackages.exposes (RegionPackages.joinGlobal s.tables.regions s.joinedRegions) region package =
    RegionPackages.exposes (RegionPackages.joinGlobal (s.change (.apply id update)).tables.regions
      (s.change (.apply id update)).joinedRegions) region package
  rw [facts.2.1, merged]
  refine RegionPackages.exposes_joinGlobal_congr ?_ _ region
  intro r
  have silent : package ∉ RegionTables.given c.regions r := by
    intro inside
    obtain ⟨entry, chosen, listed⟩ := List.mem_flatMap.1 inside
    exact unlisted entry (List.mem_filter.1 chosen).1 listed
  rw [Bool.eq_iff_iff, RegionTables.exposes_merge]
  simp [silent]

def aside : Update :=
  (((SortedTable.empty.insert Key.bundleIdentities (.text "x=other~1.0.0")).insert Key.bundleFeatures (.text "x=f")).insert
    Key.featureRegions (.text "h=r2")).insert Key.regionPackages (.text "joined=q\nr1=q")

theorem overlay_local_aside :
    let base : Contribution := ⟨[], [(⟨"b:1.0.0"⟩, [⟨"f"⟩])], [(⟨"f"⟩, [⟨"r1"⟩, ⟨"r2"⟩])], [(⟨"r1"⟩, [⟨"p"⟩]), (⟨"r2"⟩, [⟨"p"⟩])]⟩
    let s := (ofBase base .empty (.ofList [⟨"joined"⟩]) .empty).after [.apply "one" .empty, .apply "two" .empty, .remove "one"]
    let t := (s.applyOverlay "aside" aside).value
    let c := (contributed ("aside", aside)).2
    let v : BundleRevision := ⟨⟨"b", ⟨1, 0, 0, none⟩⟩, none⟩
    "aside" ∉ s.overlayIds ∧ (EffectivePolicy.ofStore s).Untouched .nowhere c v ∧ (∀ entry ∈ c.regions, ⟨"p"⟩ ∉ entry.2) ∧
      (EffectivePolicy.ofStore t).evaluate .nowhere v v ⟨"p"⟩ = (EffectivePolicy.ofStore s).evaluate .nowhere v v ⟨"p"⟩ ∧
      ((EffectivePolicy.ofStore s).evaluate .nowhere v v ⟨"p"⟩).verdict = .sharedRegion ⟨"r1"⟩ ∧
      (EffectivePolicy.ofStore s).isGlobalPackage ⟨"q"⟩ = false ∧ (EffectivePolicy.ofStore t).isGlobalPackage ⟨"q"⟩ = true := by
  intro base s t c v
  have read : c = ⟨[(⟨"other", ⟨1, 0, 0, none⟩⟩, [⟨"x"⟩])], [(⟨"x"⟩, [⟨"f"⟩])], [(⟨"h"⟩, [⟨"r2"⟩])],
      [(⟨"joined"⟩, [⟨"q"⟩]), (⟨"r1"⟩, [⟨"q"⟩])]⟩ := by decide +kernel
  have inactive : "aside" ∉ s.overlayIds := by decide +kernel
  have untouched : (EffectivePolicy.ofStore s).Untouched .nowhere c v := by
    rw [read]
    exact ⟨by decide +kernel, by decide +kernel, by decide +kernel⟩
  have unlisted : ∀ entry ∈ c.regions, ⟨"p"⟩ ∉ entry.2 := by
    rw [read]
    decide
  have same := overlay_local base .empty (.ofList [⟨"joined"⟩]) .empty [.apply "one" .empty, .apply "two" .empty, .remove "one"]
    "aside" aside .nowhere v v ⟨"p"⟩ inactive untouched untouched unlisted
  exact ⟨inactive, untouched, unlisted, same, by decide +kernel, by decide +kernel, by decide +kernel⟩

end Store

def Hook.Accepts (located : Nat → Located) (requester provider : BundleRevision) (package : PackageName) (hook : Hook) : Prop :=
  hook.filterMatches located (.ofPackage requester package) [.ofPackage provider package] = [.ofPackage provider package]

theorem Hook.accepts_regions_iff (located : Nat → Located) (requester provider : BundleRevision) (package : PackageName)
    (policy : EffectivePolicy) (opening : Nat) :
    Hook.Accepts located requester provider package (.regions policy opening) ↔
      (policy.evaluate (located opening) requester provider package).accepted = true := by
  have offered : policy.keeps (located opening) (.ofPackage requester package) (.ofPackage provider package) =
      (policy.evaluate (located opening) requester provider package).accepted := rfl
  show policy.filterMatches (located opening) (.ofPackage requester package) [.ofPackage provider package] = _ ↔ _
  have asked : (Requirement.ofPackage requester package).isPackage = true := rfl
  rw [EffectivePolicy.filterMatches, if_pos asked, ← offered]
  cases kept : policy.keeps (located opening) (.ofPackage requester package) (.ofPackage provider package) <;> simp [kept]

namespace Session

-- The overlay must be new and only widen what there is.
theorem widening_keeps_wirings {env : Environment} {embedded : EmbeddedDocuments} {area : Option DataArea} {files : FileTree}
    {opened : Reported Session} (started : start env embedded area files = .ok opened) (steps : List Step)
    (id : String) (update : Update) :
    let s := opened.value.after steps
    let t := s.next (.applyOverlay id update)
    id ∉ s.store.overlayIds →
    EffectivePolicy.Widens s.store.tables (Store.contributed (id, update)).2 →
    ∀ located requester provider package,
      (s.enforcer.hook s.store s.opening).Accepts located requester provider package →
      (t.enforcer.hook t.store t.opening).Accepts located requester provider package := by
  intro s t inactive widens located requester provider package
  obtain ⟨unasked, able⟩ := start_facts started
  have current (more : List Step) := after_policy able ⟨_, _, _, cached_unasked unasked⟩ more
  have reached : opened.value.after (steps ++ [.applyOverlay id update]) = t := after_append _ _ _
  have asked : t.policy = EffectivePolicy.ofStore t.store := reached ▸ current (steps ++ [.applyOverlay id update])
  have rebuilt : s.Rebuilt := after_rebuilt able (start_rebuilt started) steps
  have facts := Store.change_facts s.store (.apply id update)
  cases on : s.enforcer.enabled with
  | false =>
      intro _
      have accepts : t.enforcer.hook t.store t.opening = .acceptAll := if_neg (Bool.eq_false_iff.1 on)
      rw [accepts]
      rfl
  | true =>
      have earlier : s.enforcer.hook s.store s.opening = .regions (EffectivePolicy.ofStore s.store) s.opening := by
        rw [← current steps]
        exact if_pos on
      have later : t.enforcer.hook t.store t.opening = .regions (EffectivePolicy.ofStore t.store) s.opening := by
        rw [← asked]
        exact if_pos on
      rw [earlier, later, Hook.accepts_regions_iff, Hook.accepts_regions_iff]
      intro before
      have wider := EffectivePolicy.accepted_widened widens (Store.tables_added rebuilt inactive update)
        s.store.defaultRegions s.store.joinedRegions before
      rwa [← facts.1, ← facts.2.1] at wider

def embeddedBase : Environment := fun key =>
  if key = Key.regions then some "*" else if key = Key.location then some "classloader://c"
  else if key = Key.joinGlobal then some "r2" else none

def baseDocuments : EmbeddedDocuments :=
  .ofList [("c/bundles.properties", "b:1.0.0=f\n"), ("c/features.properties", "f=r1\n"), ("c/regions.properties", "r1=p\n")]

def wider : Update :=
  (SortedTable.empty.insert Key.featureRegions (.text "f=r2")).insert Key.regionPackages (.text "r2=p")

theorem widening_keeps_wirings_joined :
    ∃ opened, start embeddedBase baseDocuments none ⟨.empty, []⟩ = .ok opened ∧
      let s := opened.value.after [.askPolicy .policy]
      let t := s.next (.applyOverlay "wider" wider)
      let v : BundleRevision := ⟨⟨"b", ⟨1, 0, 0, none⟩⟩, none⟩
      "wider" ∉ s.store.overlayIds ∧ EffectivePolicy.Widens s.store.tables (Store.contributed ("wider", wider)).2 ∧
      (s.enforcer.hook s.store s.opening).Accepts (s.located .sorted) v v ⟨"p"⟩ ∧
      (t.enforcer.hook t.store t.opening).Accepts (s.located .sorted) v v ⟨"p"⟩ ∧
      ((s.policy.evaluate .nowhere v v ⟨"p"⟩).verdict, (t.policy.evaluate .nowhere v v ⟨"p"⟩).verdict) =
        (.sharedRegion ⟨"r1"⟩, .globalPackage) := by
  refine ⟨_, rfl, ?_⟩
  intro s t v
  have inactive : "wider" ∉ s.store.overlayIds := by decide +kernel
  have read : (Store.contributed ("wider", wider)).2 = ⟨[], [], [(⟨"f"⟩, [⟨"r2"⟩])], [(⟨"r2"⟩, [⟨"p"⟩])]⟩ := by decide +kernel
  have widens : EffectivePolicy.Widens s.store.tables (Store.contributed ("wider", wider)).2 := by
    rw [read]
    exact ⟨by decide +kernel, by decide +kernel, by decide +kernel⟩
  have before : (s.enforcer.hook s.store s.opening).Accepts (s.located .sorted) v v ⟨"p"⟩ := by
    unfold Hook.Accepts
    decide +kernel
  have after := @widening_keeps_wirings embeddedBase baseDocuments none ⟨.empty, []⟩ _ rfl [.askPolicy .policy] "wider" wider inactive widens _ _ _ _ before
  exact ⟨inactive, widens, before, after, by decide +kernel⟩

end Session
end RegionWiring
