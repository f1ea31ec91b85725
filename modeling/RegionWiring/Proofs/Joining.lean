import RegionWiring.Policy.Join
import RegionWiring.Proofs.Collections

namespace RegionWiring
namespace RegionPackages

theorem exposes_iff (t : RegionPackages) (region : Region) (package : PackageName) :
    t.exposes region package = true ↔ ∃ packages, t.get? region = some packages ∧ package ∈ packages.items := by
  unfold exposes
  cases t.get? region with
  | none => simp
  | some packages => simp [Members.contains_iff]

theorem isGlobal_iff (region : Region) : region.isGlobal = true ↔ region = .global := by
  simp [Region.isGlobal]

theorem isJoined_iff (joined : Members Region) (region : Region) :
    isJoined joined region = true ↔ region ≠ .global ∧ region ∈ joined.items := by
  rw [isJoined, Bool.and_eq_true, Members.contains_iff, Bool.not_eq_true', Bool.eq_false_iff, ne_eq, isGlobal_iff]

theorem not_joined_global (joined : Members Region) : isJoined joined .global = false := by
  rw [Bool.eq_false_iff, ne_eq, isJoined_iff]
  exact fun parts => parts.1 rfl

theorem mem_moved (t : RegionPackages) (joined : Members Region) (package : PackageName) :
    package ∈ (moved t joined).items ↔ ∃ region, isJoined joined region = true ∧ t.exposes region package = true := by
  rw [moved, Members.mem_ofList, List.mem_flatMap]
  constructor
  · rintro ⟨packages, listed, inside⟩
    obtain ⟨⟨region, found⟩, member, rfl⟩ := List.mem_map.1 listed
    obtain ⟨present, passed⟩ := List.mem_filter.1 member
    exact ⟨region, passed, (exposes_iff t region package).2 ⟨found, (Table.get?_eq_some_iff t region found).2 present, inside⟩⟩
  · rintro ⟨region, chosen, shown⟩
    obtain ⟨packages, found, inside⟩ := (exposes_iff t region package).1 shown
    have present := (Table.get?_eq_some_iff t region packages).1 found
    exact ⟨packages, List.mem_map.2 ⟨(region, packages), List.mem_filter.2 ⟨present, chosen⟩, rfl⟩, inside⟩

theorem moved_of_none_joined (t : RegionPackages) (joined : Members Region) (none : joined.items = []) :
    (moved t joined).items = [] := by
  apply List.eq_nil_iff_forall_not_mem.2
  intro package inside
  obtain ⟨region, chosen, _⟩ := (mem_moved t joined package).1 inside
  have member := ((isJoined_iff joined region).1 chosen).2
  rw [none] at member
  cases member

theorem get?_kept_other (t : RegionPackages) (joined : Members Region) {region : Region} (other : region ≠ .global) :
    (kept t joined).get? region = if region ∈ joined.items then none else t.get? region := by
  have notGlobal : region.isGlobal = false := by simpa [Bool.eq_false_iff, isGlobal_iff] using other
  have chosen : isJoined joined region = decide (region ∈ joined.items) := by simp [isJoined, notGlobal, Members.contains]
  rw [kept, Table.get?_mapValues, Table.get?_filter, chosen]
  by_cases h : region ∈ joined.items <;> cases t.get? region <;> simp [h, notGlobal]

theorem get?_kept_global (t : RegionPackages) (joined : Members Region) :
    (kept t joined).get? .global = (t.get? .global).map (·.union (moved t joined).items) := by
  rw [kept, Table.get?_mapValues, Table.get?_filter, not_joined_global]
  cases t.get? .global with
  | none => rfl
  | some packages => simp [Region.isGlobal]

theorem get?_joinGlobal_other (t : RegionPackages) (joined : Members Region) {region : Region} (other : region ≠ .global) :
    (joinGlobal t joined).get? region = if region ∈ joined.items then none else t.get? region := by
  unfold joinGlobal
  split
  · rename_i empty
    rw [(Members.isEmpty_iff joined).1 empty]
    simp
  · split
    · exact get?_kept_other t joined other
    · rw [Table.get?_insert, if_neg (Ne.symm other)]
      exact get?_kept_other t joined other

theorem get?_joinGlobal_global (t : RegionPackages) (joined : Members Region) :
    (joinGlobal t joined).get? .global =
      match t.get? .global with
      | some packages => some (packages.union (moved t joined).items)
      | none => if (moved t joined).items = [] then none else some (moved t joined) := by
  unfold joinGlobal
  split
  · rename_i empty
    have nothing := moved_of_none_joined t joined ((Members.isEmpty_iff joined).1 empty)
    cases h : t.get? .global with
    | none => simp [nothing]
    | some packages => simp [nothing, Members.union]
  · split
    · rename_i unchanged
      rw [get?_kept_global]
      cases h : t.get? .global with
      | some packages => rfl
      | none =>
          have missing : (kept t joined).contains .global = false := by simp [Table.contains, get?_kept_global, h]
          have nothing : (moved t joined).items = [] := by simpa [missing, Members.isEmpty_iff] using unchanged
          simp [nothing]
    · rename_i created
      have parts : (moved t joined).isEmpty = false ∧ (kept t joined).contains .global = false := by
        simpa [Bool.or_eq_false_iff] using created
      have something : (moved t joined).items ≠ [] := by simpa [Bool.eq_false_iff, Members.isEmpty_iff] using parts.1
      have missing : t.get? .global = none := by simpa [Table.contains, get?_kept_global] using parts.2
      rw [Table.get?_insert, if_pos rfl, missing]
      simp [something]

theorem exposes_joinGlobal_other (t : RegionPackages) (joined : Members Region) {region : Region}
    (other : region ≠ .global) (package : PackageName) :
    (joinGlobal t joined).exposes region package = true ↔ region ∉ joined.items ∧ t.exposes region package = true := by
  rw [exposes_iff, exposes_iff, get?_joinGlobal_other t joined other]
  by_cases h : region ∈ joined.items <;> simp [h]

theorem exposes_joinGlobal_global (t : RegionPackages) (joined : Members Region) (package : PackageName) :
    (joinGlobal t joined).exposes .global package = true ↔
      t.exposes .global package = true ∨ ∃ region ∈ joined.items, t.exposes region package = true := by
  have shown : (joinGlobal t joined).exposes .global package = true ↔
      t.exposes .global package = true ∨ package ∈ (moved t joined).items := by
    rw [exposes_iff, exposes_iff, get?_joinGlobal_global]
    cases t.get? .global with
    | some packages => simp [Members.mem_union]
    | none => by_cases nothing : (moved t joined).items = [] <;> simp [nothing]
  rw [shown, mem_moved]
  constructor
  · rintro (old | ⟨region, chosen, exposed⟩)
    · exact .inl old
    · exact .inr ⟨region, ((isJoined_iff joined region).1 chosen).2, exposed⟩
  · rintro (old | ⟨region, listed, exposed⟩)
    · exact .inl old
    · by_cases same : region = .global
      · subst same; exact .inl exposed
      · exact .inr ⟨region, (isJoined_iff joined region).2 ⟨same, listed⟩, exposed⟩

theorem exposes_joinGlobal_congr {t u : RegionPackages} {package : PackageName}
    (same : ∀ region, t.exposes region package = u.exposes region package) (joined : Members Region) (region : Region) :
    (joinGlobal t joined).exposes region package = (joinGlobal u joined).exposes region package := by
  rw [Bool.eq_iff_iff]
  by_cases isGlobal : region = .global
  · subst isGlobal
    simp only [exposes_joinGlobal_global, same]
  · simp only [exposes_joinGlobal_other _ joined isGlobal, same]

end RegionPackages
end RegionWiring
