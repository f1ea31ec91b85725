import RegionWiring.Proofs.PolicyCache

namespace RegionWiring

-- Only those before the session is reopened.
def mutations (later : List Step) : List Step := (later.takeWhile fun step => !step.reopens).filter Step.mutates

def relocated (t : LocationTable) (later : List Step) : LocationTable := (mutations later).foldl Step.relocate t

theorem relocate_still {step : Step} (still : step.mutates = false) (t : LocationTable) : step.relocate t = t := by
  cases step <;> first | rfl | cases still

theorem relocated_cons {step : Step} (stays : step.reopens = false) (t : LocationTable) (later : List Step) :
    relocated t (step :: later) = relocated (step.relocate t) later := by
  have passed : mutations (step :: later) = if step.mutates then step :: mutations later else mutations later := by
    rw [mutations, List.takeWhile_cons_of_pos (by rw [stays]; rfl), List.filter_cons]
    rfl
  rw [relocated, passed]
  cases moves : step.mutates with
  | true => rfl
  | false => rw [relocate_still moves]; rfl

theorem relocated_reopen (t : LocationTable) (later : List Step) : relocated t (.reopen :: later) = t := rfl

namespace Hook

structure Enforces (hook : Hook) (located : Nat → Located) (policy : EffectivePolicy) (t : Located) : Prop where
  filtered : ∀ r candidates, hook.filterMatches located r candidates = policy.filterMatches t r candidates
  features : ∀ v, hook.featuresOf? located v = some (policy.featuresOf t v)
  regions : ∀ features, hook.regionsOf? features = some (policy.regionsOf features)
  decisions : ∀ requester provider package,
    hook.evaluate? located requester provider package = some (policy.evaluate t requester provider package)

structure Alike (hook : Hook) (first second : Nat → Located) : Prop where
  filtered : ∀ r candidates, hook.filterMatches first r candidates = hook.filterMatches second r candidates
  features : ∀ v, hook.featuresOf? first v = hook.featuresOf? second v
  decisions : ∀ requester provider package,
    hook.evaluate? first requester provider package = hook.evaluate? second requester provider package

theorem enforces_regions (policy : EffectivePolicy) (opening : Nat) (located : Nat → Located) :
    Enforces (.regions policy opening) located policy (located opening) :=
  ⟨fun _ _ => rfl, fun _ => rfl, fun _ => rfl, fun _ _ _ => rfl⟩

theorem alike_of_eq (e : Enforcer) (s : Store) {opening : Nat} {first second : Nat → Located}
    (same : first opening = second opening) : (e.hook s opening).Alike first second := by
  unfold Enforcer.hook
  split
  · refine ⟨?_, ?_, ?_⟩
    · intro r candidates
      exact congrArg (fun t => (e.policy s).filterMatches t r candidates) same
    · intro v
      exact congrArg (fun t => some ((e.policy s).featuresOf t v)) same
    · intro requester provider package
      exact congrArg (fun t => some ((e.policy s).evaluate t requester provider package)) same
  · exact ⟨fun _ _ => rfl, fun _ => rfl, fun _ _ _ => rfl⟩

end Hook

namespace Session

variable {s : Session}

theorem locationsOf_opening (s : Session) : s.locationsOf s.opening = s.locations := by
  simp [locationsOf, opening]

-- The table of an earlier opening is out of reach.
theorem locationsOf_next (able : s.Reopenable) (step : Step) {opening : Nat} (earlier : opening < s.opening) :
    opening < (s.next step).opening ∧ (s.next step).locationsOf opening = s.locationsOf opening := by
  have inside : opening < s.retired.length := earlier
  rcases next_cases able step with ⟨_, moved⟩ | ⟨_, store, locations, same⟩
  · refine ⟨?_, ?_⟩
    · show opening < (s.next step).retired.length
      rw [moved.retired]
      exact inside
    · rw [locationsOf, locationsOf, moved.retired, List.getElem?_eq_getElem inside]
      rfl
  · rw [same]
    refine ⟨?_, ?_⟩
    · show opening < (s.retired ++ [s.locations]).length
      rw [List.length_append]
      exact Nat.lt_add_right _ inside
    · show ((s.retired ++ [s.locations])[opening]?).getD _ = (s.retired[opening]?).getD _
      rw [List.getElem?_append_left inside, List.getElem?_eq_getElem inside]
      rfl

theorem locationsOf_after (able : s.Reopenable) (steps : List Step) {opening : Nat} (earlier : opening < s.opening) :
    (s.after steps).locationsOf opening = s.locationsOf opening := by
  induction steps generalizing s with
  | nil => rfl
  | cons step rest ih =>
      obtain ⟨still, same⟩ := locationsOf_next able step earlier
      exact (ih (next_reopenable able step) still).trans same

theorem locationsOf_later (able : s.Reopenable) (later : List Step) :
    (s.after later).locationsOf s.opening = relocated s.locations later := by
  induction later generalizing s with
  | nil => exact locationsOf_opening s
  | cons step rest ih =>
      rcases next_cases able step with ⟨stays, moved⟩ | ⟨rfl, store, locations, same⟩
      · have unmoved : s.opening = (s.next step).opening := congrArg List.length moved.retired.symm
        show ((s.next step).after rest).locationsOf s.opening = _
        rw [unmoved, ih (next_reopenable able step), moved.locations, relocated_cons stays]
      · have retired : (s.next .reopen).retired = s.retired ++ [s.locations] := by rw [same]
        have earlier : s.opening < (s.next .reopen).opening := by simp [opening, retired]
        have kept := locationsOf_after (next_reopenable able .reopen) rest earlier
        rw [relocated_reopen]
        refine kept.trans ?_
        simp [locationsOf, opening, retired]

theorem hooks_next (able : s.Reopenable) {step : Step} {name : String} (stays : step.displaces name = false) :
    (s.next step).hooks.get? name = s.hooks.get? name := by
  rcases next_cases able step with ⟨_, moved⟩ | ⟨_, store, locations, same⟩
  · exact moved.hooks name stays
  · rw [same]

theorem hooks_after (able : s.Reopenable) {steps : List Step} {name : String}
    (stay : ∀ step ∈ steps, step.displaces name = false) : (s.after steps).hooks.get? name = s.hooks.get? name := by
  induction steps generalizing s with
  | nil => rfl
  | cons step rest ih =>
      obtain ⟨stays, others⟩ := List.forall_mem_cons.1 stay
      exact (ih (next_reopenable able step) others).trans (hooks_next able stays)

theorem hook_begun {triggers : List RevisionText} {revisions : List BundleRevision} (read : readRevisions triggers = .ok revisions)
    (name : String) : (s.next (.begin name triggers)).hooks.get? name = some (s.enforcer.hook s.store s.opening) := by
  show (s.beginAfter name triggers).1.hooks.get? name = _
  rw [beginAfter, read]
  exact (Table.get?_insert _ name name _).trans (if_pos rfl)

theorem locationsOf_begun (able : s.Reopenable) (name : String) (triggers : List RevisionText) (later : List Step) :
    (s.after (.begin name triggers :: later)).locationsOf s.opening = relocated s.locations later :=
  (locationsOf_later able (.begin name triggers :: later)).trans (relocated_cons rfl _ later)

-- Whether a hook filters, and by which policy, is fixed when it is begun. Only the location table of that opening is looked up
-- at the time of asking.
theorem hook_isolated {env : Environment} {embedded : EmbeddedDocuments} {area : Option DataArea} {files : FileTree}
    {opened : Reported Session} (started : start env embedded area files = .ok opened) (before later : List Step)
    (name : String) (triggers : List RevisionText) :
    let s := opened.value.after before
    let hook := s.enforcer.hook s.store s.opening
    let present := (opened.value.after (before ++ .begin name triggers :: later)).located
    (s.enforcer.enabled = false → ∀ order r candidates, hook.filterMatches (present order) r candidates = candidates) ∧
    (s.enforcer.enabled = true → ∀ order,
      hook.Enforces (present order) (EffectivePolicy.ofStore s.store) ((relocated s.locations later).located order)) ∧
    (∀ other, mutations other = mutations later → ∀ order,
      hook.Alike (present order) ((opened.value.after (before ++ .begin name triggers :: other)).located order)) ∧
    ((readRevisions triggers).isOk = true → (∀ step ∈ later, step.displaces name = false) →
      (opened.value.after (before ++ .begin name triggers :: later)).hooks.get? name = some hook) := by
  intro s hook present
  obtain ⟨unasked, able⟩ := start_facts started
  have ableNow : s.Reopenable := after_reopenable able before
  have current : s.policy = EffectivePolicy.ofStore s.store := after_policy able ⟨_, _, _, cached_unasked unasked⟩ before
  have begun (more : List Step) : opened.value.after (before ++ .begin name triggers :: more) =
      s.after (.begin name triggers :: more) := after_append opened.value before _
  have table (more : List Step) (order : SetOrder) :
      (opened.value.after (before ++ .begin name triggers :: more)).located order s.opening =
        (relocated s.locations more).located order := by
    rw [begun, located, locationsOf_begun ableNow name triggers more]
  refine ⟨?_, ?_, ?_, ?_⟩
  · intro off order r candidates
    have accepts : hook = .acceptAll := by simp [hook, Enforcer.hook, off]
    rw [accepts]
    rfl
  · intro on order
    have enforcing : hook = .regions (EffectivePolicy.ofStore s.store) s.opening := by
      rw [← current]
      exact if_pos on
    rw [enforcing, ← table later order]
    exact Hook.enforces_regions _ _ _
  · intro other same order
    have equal : relocated s.locations later = relocated s.locations other := by rw [relocated, relocated, same]
    exact Hook.alike_of_eq _ _ ((table later order).trans (equal ▸ (table other order).symm))
  · intro read stay
    cases result : readRevisions triggers with
    | error fault => rw [result] at read; cases read
    | ok revisions =>
        rw [begun]
        exact (hooks_after (next_reopenable ableNow _) stay).trans (hook_begun result name)

def enforcing : Environment := fun key => if key = Key.regions ∨ key = Key.location then some "classloader://none" else none

-- The last mutation comes too late for the hook, and so does switching enforcement off.
theorem hook_isolated_reopened :
    ∃ opened, start enforcing .empty none ⟨.empty, []⟩ = .ok opened ∧
      let s := opened.value
      let hook := s.enforcer.hook s.store s.opening
      let later := [.addLocation "near" "f", .addLocation "far" "g", .switch false, .reopen, .removeLocation "far"]
      let t := s.after (.begin "attempt" [] :: later)
      s.enforcer.enabled = true ∧
      hook.Enforces (t.located .sorted) (EffectivePolicy.ofStore s.store) ((relocated s.locations later).located .sorted) ∧
      (relocated s.locations later).located .sorted "far" = ["g"] ∧ t.locations.located .sorted "far" = [] ∧
      t.hooks.get? "attempt" = some hook := by
  refine ⟨_, rfl, ?_⟩
  intro s hook later t
  have started : start enforcing .empty none ⟨.empty, []⟩ = .ok (pure s) := rfl
  obtain ⟨-, enforced, -, stored⟩ := hook_isolated started [] later "attempt" []
  exact ⟨rfl, enforced rfl .sorted, rfl, rfl, stored rfl (by decide)⟩

end Session
end RegionWiring
