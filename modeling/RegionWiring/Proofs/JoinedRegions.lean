import RegionWiring.Proofs.Joining

namespace RegionWiring

namespace RegionPackages

structure SameContent (t u : RegionPackages) : Prop where
  keys : ∀ region, region ∈ t.keys ↔ region ∈ u.keys
  exposes : ∀ region package, t.exposes region package = true ↔ u.exposes region package = true

namespace SameContent

variable {t u w : RegionPackages}

theorem symm (same : SameContent t u) : SameContent u t :=
  ⟨fun region => (same.keys region).symm, fun region package => (same.exposes region package).symm⟩

theorem trans (first : SameContent t u) (second : SameContent u w) : SameContent t w :=
  ⟨fun region => (first.keys region).trans (second.keys region),
    fun region package => (first.exposes region package).trans (second.exposes region package)⟩

theorem equal (same : SameContent t u) : (t == u) = true := by
  rw [Table.same_iff]
  intro region
  have present := same.keys region
  rw [Table.mem_keys_iff, Table.mem_keys_iff] at present
  have shown := same.exposes region
  simp only [exposes_iff] at shown
  cases here : t.get? region with
  | none =>
      cases there : u.get? region with
      | none => exact .none
      | some packages => simp [here, there] at present
  | some packages =>
      cases there : u.get? region with
      | none => simp [here, there] at present
      | some others =>
          apply Option.Rel.some
          rw [Members.same_iff]
          intro package
          simpa [here, there] using shown package

end SameContent

section Joined

variable (t : RegionPackages) (joined more : Members Region)

theorem mem_keys_of_exposes {region : Region} {package : PackageName} (shown : t.exposes region package = true) :
    region ∈ t.keys := by
  obtain ⟨packages, found, _⟩ := (exposes_iff t region package).1 shown
  exact (Table.mem_keys_iff t region).2 ⟨packages, found⟩

theorem mem_keys_joinGlobal_other {region : Region} (other : region ≠ .global) :
    region ∈ (joinGlobal t joined).keys ↔ region ∈ t.keys ∧ region ∉ joined.items := by
  rw [Table.mem_keys_iff, Table.mem_keys_iff, get?_joinGlobal_other t joined other]
  by_cases inside : region ∈ joined.items <;> simp [inside]

-- The regions whose packages are common after joining.
def Folds (region : Region) : Prop := region = .global ∨ region ∈ joined.items

theorem exposes_global_iff (package : PackageName) : (joinGlobal t joined).exposes .global package = true ↔
    ∃ region, Folds joined region ∧ t.exposes region package = true := by
  rw [exposes_joinGlobal_global]
  constructor
  · intro shown
    rcases shown with old | ⟨region, inside, shown⟩
    · exact ⟨.global, .inl rfl, old⟩
    · exact ⟨region, .inr inside, shown⟩
  · intro shown
    obtain ⟨region, isGlobal | inside, shown⟩ := shown
    · subst isGlobal
      exact .inl shown
    · exact .inr ⟨region, inside, shown⟩

-- `global` becomes a key only with something to expose.
theorem mem_keys_joinGlobal_global : .global ∈ (joinGlobal t joined).keys ↔
    .global ∈ t.keys ∨ ∃ package, (joinGlobal t joined).exposes .global package = true := by
  constructor
  · intro present
    obtain ⟨packages, found⟩ := (Table.mem_keys_iff _ _).1 present
    rw [get?_joinGlobal_global] at found
    cases here : t.get? .global with
    | some old => exact .inl ((Table.mem_keys_iff _ _).2 ⟨old, here⟩)
    | none =>
        rw [here] at found
        by_cases nothing : (moved t joined).items = []
        · simp [nothing] at found
        · obtain ⟨package, inside⟩ := List.exists_mem_of_ne_nil _ nothing
          obtain ⟨region, chosen, shown⟩ := (mem_moved t joined package).1 inside
          have listed := ((isJoined_iff joined region).1 chosen).2
          exact .inr ⟨package, (exposes_global_iff t joined package).2 ⟨region, .inr listed, shown⟩⟩
  · intro reason
    rcases reason with old | ⟨package, shown⟩
    · obtain ⟨packages, here⟩ := (Table.mem_keys_iff _ _).1 old
      refine (Table.mem_keys_iff _ _).2 ⟨packages.union (moved t joined).items, ?_⟩
      rw [get?_joinGlobal_global, here]
    · exact mem_keys_of_exposes _ shown

theorem keys_kept : (kept t joined).keys = t.keys.filter fun region => !isJoined joined region := by
  rw [kept, Table.keys_mapValues, Table.keys_filter]

theorem keys_joinGlobal : (joinGlobal t joined).keys = (t.keys.filter fun region => !isJoined joined region) ++
    if .global ∈ t.keys ∨ (moved t joined).items = [] then [] else [.global] := by
  have staying : .global ∈ (kept t joined).keys ↔ .global ∈ t.keys := by
    rw [keys_kept, List.mem_filter, not_joined_global]
    simp
  unfold joinGlobal
  split
  · rename_i none
    have empty := (Members.isEmpty_iff joined).1 none
    have nothing := moved_of_none_joined t joined empty
    have all : ∀ region ∈ t.keys, (!isJoined joined region) = true := by
      intro region _
      simp [isJoined, Members.contains, empty]
    rw [if_pos (.inr nothing), List.filter_eq_self.2 all, List.append_nil]
  · split
    · rename_i unchanged
      have reason : .global ∈ t.keys ∨ (moved t joined).items = [] := by
        rw [Bool.or_eq_true, Members.isEmpty_iff, Table.contains_iff, staying] at unchanged
        exact unchanged.symm
      rw [if_pos reason, keys_kept, List.append_nil]
    · rename_i created
      have absent : ¬ (.global ∈ t.keys ∨ (moved t joined).items = []) := by
        rw [Bool.or_eq_true, Members.isEmpty_iff, Table.contains_iff, staying] at created
        exact fun reason => created reason.symm
      have missing : .global ∉ (kept t joined).keys := fun inside => absent (.inl (staying.1 inside))
      rw [if_neg absent, ← keys_kept, Table.keys, Table.entries_insert_absent _ _ _ missing, List.map_append]
      rfl

theorem exists_exposes_joinGlobal (package : PackageName) :
    (∃ region, (joinGlobal t joined).exposes region package = true) ↔ ∃ region, t.exposes region package = true := by
  constructor
  · intro somewhere
    obtain ⟨region, shown⟩ := somewhere
    by_cases isGlobal : region = .global
    · subst isGlobal
      obtain ⟨source, _, old⟩ := (exposes_global_iff t joined package).1 shown
      exact ⟨source, old⟩
    · exact ⟨region, ((exposes_joinGlobal_other t joined isGlobal package).1 shown).2⟩
  · intro somewhere
    obtain ⟨region, shown⟩ := somewhere
    by_cases folds : Folds joined region
    · exact ⟨.global, (exposes_global_iff t joined package).2 ⟨region, folds, shown⟩⟩
    · obtain ⟨other, outside⟩ := not_or.1 folds
      exact ⟨region, (exposes_joinGlobal_other t joined other package).2 ⟨outside, shown⟩⟩

theorem exposes_joinGlobal_twice (region : Region) (package : PackageName) :
    (joinGlobal (joinGlobal t joined) more).exposes region package = true ↔
      (joinGlobal t (joined.union more.items)).exposes region package = true := by
  by_cases isGlobal : region = .global
  · subst isGlobal
    rw [exposes_global_iff, exposes_global_iff]
    constructor
    · intro shown
      obtain ⟨source, folds, shown⟩ := shown
      by_cases common : source = .global
      · subst common
        obtain ⟨first, folded, old⟩ := (exposes_global_iff t joined package).1 shown
        exact ⟨first, folded.imp_right fun inside => (Members.mem_union _ _ _).2 (.inl inside), old⟩
      · have old := ((exposes_joinGlobal_other t joined common package).1 shown).2
        exact ⟨source, folds.imp_right fun inside => (Members.mem_union _ _ _).2 (.inr inside), old⟩
    · intro shown
      obtain ⟨source, folds, old⟩ := shown
      -- What the first join takes is in `global` before the second.
      by_cases folded : Folds joined source
      · exact ⟨.global, .inl rfl, (exposes_global_iff t joined package).2 ⟨source, folded, old⟩⟩
      · obtain ⟨other, outside⟩ := not_or.1 folded
        have inside : source ∈ more.items := ((Members.mem_union _ _ _).1 (folds.resolve_left other)).resolve_left outside
        exact ⟨source, .inr inside, (exposes_joinGlobal_other t joined other package).2 ⟨outside, old⟩⟩
  · rw [exposes_joinGlobal_other _ _ isGlobal, exposes_joinGlobal_other _ _ isGlobal, exposes_joinGlobal_other _ _ isGlobal,
      Members.mem_union, not_or]
    constructor
    · intro parts
      exact ⟨⟨parts.2.1, parts.1⟩, parts.2.2⟩
    · intro parts
      exact ⟨parts.1.2, parts.1.1, parts.2⟩

theorem mem_keys_joinGlobal_twice (region : Region) :
    region ∈ (joinGlobal (joinGlobal t joined) more).keys ↔ region ∈ (joinGlobal t (joined.union more.items)).keys := by
  by_cases isGlobal : region = .global
  · subst isGlobal
    rw [mem_keys_joinGlobal_global, mem_keys_joinGlobal_global, mem_keys_joinGlobal_global]
    simp only [← exposes_joinGlobal_twice]
    constructor
    · intro reason
      rcases reason with (old | ⟨package, first⟩) | second
      · exact .inl old
      · exact .inr ⟨package, (exposes_global_iff _ _ _).2 ⟨.global, .inl rfl, first⟩⟩
      · exact .inr second
    · intro reason
      exact reason.imp_left .inl
  · rw [mem_keys_joinGlobal_other _ _ isGlobal, mem_keys_joinGlobal_other _ _ isGlobal, mem_keys_joinGlobal_other _ _ isGlobal,
      Members.mem_union, not_or, and_assoc]

theorem joinGlobal_joinGlobal : SameContent (joinGlobal (joinGlobal t joined) more) (joinGlobal t (joined.union more.items)) :=
  ⟨mem_keys_joinGlobal_twice t joined more, exposes_joinGlobal_twice t joined more⟩

theorem joinGlobal_members {joined others : Members Region} (members : ∀ region, region ∈ joined.items ↔ region ∈ others.items) :
    SameContent (joinGlobal t joined) (joinGlobal t others) := by
  constructor
  · intro region
    by_cases isGlobal : region = .global
    · subst isGlobal
      simp only [mem_keys_joinGlobal_global, exposes_joinGlobal_global, members]
    · simp only [mem_keys_joinGlobal_other t _ isGlobal, members]
  · intro region package
    by_cases isGlobal : region = .global
    · subst isGlobal
      simp only [exposes_joinGlobal_global, members]
    · simp only [exposes_joinGlobal_other t _ isGlobal, members]

end Joined

-- Joining twice is joining the regions of both lists.
theorem joining_conserves (t : RegionPackages) (joined more : Members Region) :
    let result := joinGlobal t joined
    let exposedBy := fun package => ∃ region ∈ joined.items, t.exposes region package = true
    (∀ region ∈ joined.items, region ≠ .global → region ∉ result.keys) ∧
    (∀ region, region ≠ .global → region ∉ joined.items → result.get? region = t.get? region) ∧
    (t.keys.filter fun region => region = .global ∨ region ∉ joined.items) <+: result.keys ∧
    (∀ package, result.exposes .global package = true ↔ t.exposes .global package = true ∨ exposedBy package) ∧
    (.global ∈ result.keys ↔ .global ∈ t.keys ∨ ∃ package, exposedBy package) ∧
    (∀ package, (∃ region, result.exposes region package = true) ↔ ∃ region, t.exposes region package = true) ∧
    (joinGlobal result more == joinGlobal t (joined.union more.items)) = true ∧
    (joinGlobal result joined == result) = true ∧
    (joinGlobal result more == joinGlobal (joinGlobal t more) joined) = true := by
  intro result exposedBy
  have twice := joinGlobal_joinGlobal t
  refine ⟨?_, ?_, ?_, exposes_joinGlobal_global t joined, ?_, exists_exposes_joinGlobal t joined, ?_, ?_, ?_⟩
  · intro region inside other present
    exact ((mem_keys_joinGlobal_other t joined other).1 present).2 inside
  · intro region other outside
    exact (get?_joinGlobal_other t joined other).trans (if_neg outside)
  · have staying : ∀ region ∈ t.keys,
        decide (region = .global ∨ region ∉ joined.items) = !isJoined joined region := by
      intro region _
      rw [Bool.eq_iff_iff, decide_eq_true_iff, Bool.not_eq_true', Bool.eq_false_iff, ne_eq, isJoined_iff]
      tauto
    rw [List.filter_congr staying]
    exact ⟨_, (keys_joinGlobal t joined).symm⟩
  · show .global ∈ (joinGlobal t joined).keys ↔ _
    rw [mem_keys_joinGlobal_global]
    simp only [exposes_joinGlobal_global]
    constructor
    · intro reason
      rcases reason with old | ⟨package, old | shown⟩
      · exact .inl old
      · exact .inl (mem_keys_of_exposes t old)
      · exact .inr ⟨package, shown⟩
    · intro reason
      rcases reason with old | ⟨package, shown⟩
      · exact .inl old
      · exact .inr ⟨package, .inr shown⟩
  · exact (twice joined more).equal
  · apply SameContent.equal
    refine (twice joined joined).trans (joinGlobal_members t ?_)
    intro region
    rw [Members.mem_union, or_self]
  · apply SameContent.equal
    refine ((twice joined more).trans (joinGlobal_members t ?_)).trans (twice more joined).symm
    intro region
    rw [Members.mem_union, Members.mem_union, or_comm]

theorem joining_conserves_created :
    let t : RegionPackages := Table.ofList [(⟨"r"⟩, .ofList [⟨"p"⟩]), (⟨"e"⟩, .empty), (⟨"o"⟩, .ofList [⟨"q"⟩])]
    let joined : Members Region := .ofList [.global, ⟨"e"⟩, ⟨"r"⟩, ⟨"unknown"⟩]
    (⟨"r"⟩ ∈ joined.items ∧ (⟨"r"⟩ : Region) ≠ .global) ∧ ((⟨"o"⟩ : Region) ≠ .global ∧ ⟨"o"⟩ ∉ joined.items) ∧
      ⟨"r"⟩ ∉ (joinGlobal t joined).keys ∧ (joinGlobal t joined).get? ⟨"o"⟩ = t.get? ⟨"o"⟩ ∧
      (joinGlobal t joined).keys = [⟨"o"⟩, .global] ∧ (joinGlobal t joined).exposes .global ⟨"p"⟩ = true := by
  intro t joined
  have gone : ⟨"r"⟩ ∈ joined.items ∧ (⟨"r"⟩ : Region) ≠ .global := by decide
  have stays : (⟨"o"⟩ : Region) ≠ .global ∧ ⟨"o"⟩ ∉ joined.items := by decide
  obtain ⟨removed, kept, -, common, -⟩ := joining_conserves t joined .empty
  refine ⟨gone, stays, removed _ gone.1 gone.2, kept _ stays.1 stays.2, by decide, ?_⟩
  exact (common ⟨"p"⟩).2 (.inr ⟨⟨"r"⟩, gone.1, by decide⟩)

end RegionPackages
end RegionWiring
