import RegionWiring.Proofs.SessionRuns

namespace RegionWiring

-- Later snapshots have later generations.
structure Chronicle (past : List Snapshot) (now : Snapshot) : Prop where
  present : now ∈ past
  newest : ∀ a ∈ past, a.generation ≤ now.generation
  ordered : past.Pairwise fun a b => a.generation ≤ b.generation
  single : ∀ a ∈ past, ∀ b ∈ past, a.generation = b.generation → a = b

namespace Chronicle

theorem start (now : Snapshot) : Chronicle [now] now := by
  refine ⟨by simp, ?_, by simp, ?_⟩
  · intro a member
    cases List.mem_singleton.1 member
    exact Nat.le_refl _
  · intro a first b second _
    rw [List.mem_singleton.1 first, List.mem_singleton.1 second]

theorem publish {past : List Snapshot} {now after : Snapshot} (told : Chronicle past now)
    (later : after = now ∨ now.generation < after.generation) : Chronicle (past ++ [after]) after := by
  have older : ∀ a ∈ past, a.generation ≤ after.generation := by
    intro a member
    have bound := told.newest a member
    rcases later with rfl | grown
    · exact bound
    · omega
  -- The same generation means that nothing new was published.
  have known : ∀ a ∈ past, a.generation = after.generation → a = after := by
    intro a member equal
    rcases later with rfl | grown
    · exact told.single a member _ told.present equal
    · have bound := told.newest a member
      omega
  refine ⟨by simp, ?_, ?_, ?_⟩
  · intro a member
    rcases List.mem_append.1 member with old | new
    · exact older a old
    · cases List.mem_singleton.1 new
      exact Nat.le_refl _
  · refine List.pairwise_append.2 ⟨told.ordered, by simp, ?_⟩
    intro a old b new
    rw [List.mem_singleton.1 new]
    exact older a old
  · intro a first b second equal
    rcases List.mem_append.1 first with old | new
    · rcases List.mem_append.1 second with other | last
      · exact told.single a old b other equal
      · rw [List.mem_singleton.1 last] at equal ⊢
        exact known a old equal
    · rcases List.mem_append.1 second with other | last
      · rw [List.mem_singleton.1 new] at equal ⊢
        exact (known b other equal.symm).symm
      · rw [List.mem_singleton.1 new, List.mem_singleton.1 last]

end Chronicle

namespace Session

structure Cached (defaults joined : Members Region) (past : List Snapshot) (s : Session) : Prop where
  chronicle : Chronicle past s.store.snapshot
  listed : s.store.defaultRegions = defaults
  folded : s.store.joinedRegions = joined
  derived : ∀ p, s.enforcer.kept = some p → ∃ a ∈ past, p = EffectivePolicy.derive a defaults joined

variable {defaults joined : Members Region} {past : List Snapshot} {s : Session}

theorem cached_unasked (unasked : s.enforcer.kept = none) :
    Cached s.store.defaultRegions s.store.joinedRegions [s.store.snapshot] s := by
  refine ⟨Chronicle.start _, rfl, rfl, ?_⟩
  intro p kept
  rw [unasked] at kept
  cases kept

theorem Cached.policy_eq (cached : Cached defaults joined past s) :
    s.policy = EffectivePolicy.derive s.store.snapshot defaults joined := by
  have afresh : EffectivePolicy.ofStore s.store = EffectivePolicy.derive s.store.snapshot defaults joined := by
    rw [EffectivePolicy.ofStore, cached.listed, cached.folded]
  unfold Session.policy Enforcer.policy Enforcer.fresh?
  cases kept : s.enforcer.kept with
  | none => exact afresh
  | some p =>
      by_cases fresh : p.generation = s.store.generation
      · obtain ⟨a, member, rfl⟩ := cached.derived p kept
        have same : a = s.store.snapshot := cached.chronicle.single a member _ cached.chronicle.present fresh
        subst same
        simp [Option.filter, fresh]
      · simp [Option.filter, fresh, afresh]

theorem Cached.next (cached : Cached defaults joined past s) {step : Step} (stays : step.reopens = false) :
    Cached defaults joined (past ++ [(s.next step).store.snapshot]) (s.next step) := by
  have moved := next_within s step stays
  obtain ⟨sameDefaults, sameJoined, later⟩ : (s.next step).store.defaultRegions = s.store.defaultRegions ∧
      (s.next step).store.joinedRegions = s.store.joinedRegions ∧
      ((s.next step).store.snapshot = s.store.snapshot ∨ s.store.generation < (s.next step).store.generation) := by
    rw [moved.store]
    cases step.change? with
    | none => exact ⟨rfl, rfl, .inl rfl⟩
    | some c => exact Store.change_facts s.store c
  refine ⟨cached.chronicle.publish later, sameDefaults.trans cached.listed, sameJoined.trans cached.folded, ?_⟩
  intro p kept
  rcases moved.kept with unchanged | asked
  · obtain ⟨a, member, derived⟩ := cached.derived p (unchanged.symm.trans kept)
    exact ⟨a, List.mem_append_left _ member, derived⟩
  · have same : p = s.policy := Option.some.inj (kept.symm.trans asked)
    exact ⟨s.store.snapshot, List.mem_append_left _ cached.chronicle.present, same.trans cached.policy_eq⟩

def published (s : Session) : List Step → List Snapshot
  | [] => [s.store.snapshot]
  | step :: rest => s.store.snapshot :: (s.next step).published rest

theorem Cached.after {steps : List Step} (cached : Cached defaults joined (past ++ [s.store.snapshot]) s)
    (stay : ∀ step ∈ steps, step.reopens = false) :
    Cached defaults joined (past ++ s.published steps) (s.after steps) := by
  induction steps generalizing past s with
  | nil => exact cached
  | cons step rest ih =>
      obtain ⟨stays, others⟩ := List.forall_mem_cons.1 stay
      have later := ih (cached.next stays) others
      rwa [List.append_assoc] at later

-- Reopening keeps nothing.
theorem next_policy (able : s.Reopenable) (cached : ∃ defaults joined past, Cached defaults joined past s) (step : Step) :
    ∃ defaults joined past, Cached defaults joined past (s.next step) := by
  rcases next_cases able step with ⟨stays, _⟩ | ⟨_, store, locations, same⟩
  · obtain ⟨defaults, joined, past, known⟩ := cached
    exact ⟨defaults, joined, _, known.next stays⟩
  · have unasked : (s.next step).enforcer.kept = none := by rw [same]; rfl
    exact ⟨_, _, _, cached_unasked unasked⟩

theorem after_policy (able : s.Reopenable) (cached : ∃ defaults joined past, Cached defaults joined past s) (steps : List Step) :
    (s.after steps).policy = EffectivePolicy.ofStore (s.after steps).store := by
  induction steps generalizing s with
  | nil =>
      obtain ⟨defaults, joined, past, known⟩ := cached
      show s.policy = EffectivePolicy.ofStore s.store
      rw [known.policy_eq, EffectivePolicy.ofStore, known.listed, known.folded]
  | cons step rest ih => exact ih (next_reopenable able step) (next_policy able cached step)

-- Generations only grow, so a kept policy of this generation is the present one.
theorem policy_transparent (unasked : s.enforcer.kept = none) (steps : List Step)
    (stay : ∀ step ∈ steps, step.reopens = false) :
    (s.after steps).policy =
      EffectivePolicy.derive (s.after steps).store.snapshot s.store.defaultRegions s.store.joinedRegions ∧
    ((s.published steps).Pairwise fun a b => a.generation ≤ b.generation) ∧
    (∀ a ∈ s.published steps, ∀ b ∈ s.published steps, a.generation = b.generation → a.tables = b.tables) ∧
    (∀ p, (s.after steps).enforcer.kept = some p → ∃ a ∈ s.published steps, a.generation = p.generation ∧
      p = EffectivePolicy.derive a s.store.defaultRegions s.store.joinedRegions) := by
  have cached : Cached s.store.defaultRegions s.store.joinedRegions (s.published steps) (s.after steps) :=
    @Cached.after _ _ [] s steps (cached_unasked unasked) stay
  refine ⟨cached.policy_eq, cached.chronicle.ordered, ?_, ?_⟩
  · intro a first b second equal
    rw [cached.chronicle.single a first b second equal]
  · intro p kept
    obtain ⟨a, member, rfl⟩ := cached.derived p kept
    exact ⟨a, member, rfl, rfl⟩

-- The kept policy is one generation behind.
theorem policy_transparent_behind :
    let s : Session := ⟨fun _ => none, .empty, none, ⟨.empty, []⟩, .ofBase .empty .empty .empty .empty, ⟨true, none⟩,
      .empty, [], .empty, .empty⟩
    let steps := [.askPolicy .policy, .applyOverlay "pid" .empty, .removeOverlay "other", .begin "attempt" [], .deleteOverlay "pid"]
    let t := s.after steps
    s.enforcer.kept = none ∧ (∀ step ∈ steps, step.reopens = false) ∧
      t.policy = EffectivePolicy.derive t.store.snapshot s.store.defaultRegions s.store.joinedRegions ∧
      t.enforcer.kept.map EffectivePolicy.generation = some 2 ∧ t.policy.generation = 3 := by
  intro s steps t
  have stay : ∀ step ∈ steps, step.reopens = false := by decide
  exact ⟨rfl, stay, (policy_transparent rfl steps stay).1, rfl, rfl⟩

end Session
end RegionWiring
