namespace RegionWiring

universe u

structure Members (α : Type u) where
  items : List α
  distinct : items.Nodup

namespace Members

-- A member already present keeps its place.
def enter {α : Type u} [DecidableEq α] (items : List α) (a : α) : List α :=
  if a ∈ items then items else items ++ [a]

theorem enter_distinct {α : Type u} [DecidableEq α] (items : List α) (a : α) (distinct : items.Nodup) :
    (enter items a).Nodup := by
  unfold enter
  split
  · exact distinct
  · rename_i absent
    rw [List.nodup_append]
    refine ⟨distinct, by simp, ?_⟩
    intro x inside y last
    simp only [List.mem_singleton] at last
    subst last
    intro same
    exact absent (same ▸ inside)

def empty {α : Type u} : Members α := ⟨[], .nil⟩

instance {α : Type u} : Inhabited (Members α) := ⟨empty⟩

def insert {α : Type u} [DecidableEq α] (s : Members α) (a : α) : Members α :=
  ⟨enter s.items a, enter_distinct s.items a s.distinct⟩

def union {α : Type u} [DecidableEq α] (s : Members α) (more : List α) : Members α := more.foldl insert s

def ofList {α : Type u} [DecidableEq α] (items : List α) : Members α := empty.union items

def contains {α : Type u} [DecidableEq α] (s : Members α) (a : α) : Bool := decide (a ∈ s.items)

def size {α : Type u} (s : Members α) : Nat := s.items.length

def isEmpty {α : Type u} (s : Members α) : Bool := s.items.isEmpty

def same {α : Type u} [DecidableEq α] (a b : Members α) : Bool :=
  a.size == b.size && a.items.all b.contains

instance {α : Type u} [DecidableEq α] : BEq (Members α) := ⟨same⟩

theorem mem_insert {α : Type u} [DecidableEq α] (s : Members α) (a x : α) :
    x ∈ (s.insert a).items ↔ x ∈ s.items ∨ x = a := by
  show x ∈ enter s.items a ↔ _
  unfold enter
  split
  · rename_i inside
    constructor
    · exact .inl
    · rintro (h | rfl)
      · exact h
      · exact inside
  · simp

theorem mem_union {α : Type u} [DecidableEq α] (s : Members α) (more : List α) (x : α) :
    x ∈ (s.union more).items ↔ x ∈ s.items ∨ x ∈ more := by
  induction more generalizing s with
  | nil => simp [union]
  | cons a rest ih =>
      show x ∈ ((s.insert a).union rest).items ↔ _
      rw [ih, mem_insert, List.mem_cons, or_assoc]

theorem mem_ofList {α : Type u} [DecidableEq α] (items : List α) (x : α) :
    x ∈ (ofList items).items ↔ x ∈ items := by
  rw [ofList, mem_union]; simp [empty]

end Members
end RegionWiring
