namespace RegionWiring

universe u v w

structure Table (α : Type u) (β : Type v) where
  entries : List (α × β)
  distinct : (entries.map Prod.fst).Nodup

namespace Table

def lookup {α : Type u} {β : Type v} [DecidableEq α] (key : α) : List (α × β) → Option β
  | [] => none
  | (k, v) :: rest => if k = key then some v else lookup key rest

def write {α : Type u} {β : Type v} [DecidableEq α] (key : α) (value : β) : List (α × β) → List (α × β)
  | [] => [(key, value)]
  | (k, v) :: rest => if k = key then (key, value) :: rest else (k, v) :: write key value rest

def drop {α : Type u} {β : Type v} [DecidableEq α] (key : α) : List (α × β) → List (α × β)
  | [] => []
  | (k, v) :: rest => if k = key then rest else (k, v) :: drop key rest

theorem key_mem_write {α : Type u} {β : Type v} [DecidableEq α] (key k : α) (value : β) (entries : List (α × β)) :
    k ∈ (write key value entries).map Prod.fst ↔ k = key ∨ k ∈ entries.map Prod.fst := by
  induction entries with
  | nil => simp [write]
  | cons head rest ih =>
      obtain ⟨k', v'⟩ := head
      by_cases h : k' = key
      · subst h; simp [write]
      · simp only [write, if_neg h, List.map_cons, List.mem_cons, ih]
        constructor
        · rintro (a | b | c)
          · exact .inr (.inl a)
          · exact .inl b
          · exact .inr (.inr c)
        · rintro (a | b | c)
          · exact .inr (.inl a)
          · exact .inl b
          · exact .inr (.inr c)

theorem write_distinct {α : Type u} {β : Type v} [DecidableEq α] (key : α) (value : β) (entries : List (α × β))
    (distinct : (entries.map Prod.fst).Nodup) : ((write key value entries).map Prod.fst).Nodup := by
  induction entries with
  | nil => simp [write]
  | cons head rest ih =>
      obtain ⟨k, v⟩ := head
      simp only [List.map_cons, List.nodup_cons] at distinct
      by_cases h : k = key
      · subst h; simpa [write] using distinct
      · simp only [write, if_neg h, List.map_cons, List.nodup_cons]
        refine ⟨?_, ih distinct.2⟩
        rw [key_mem_write]
        rintro (same | inside)
        · exact h same
        · exact distinct.1 inside

theorem drop_sublist {α : Type u} {β : Type v} [DecidableEq α] (key : α) (entries : List (α × β)) :
    (drop key entries).Sublist entries := by
  induction entries with
  | nil => exact .slnil
  | cons head rest ih =>
      obtain ⟨k, v⟩ := head
      by_cases h : k = key
      · simp only [drop, if_pos h]; exact .cons _ (List.Sublist.refl _)
      · simp only [drop, if_neg h]; exact .cons_cons _ ih

theorem drop_distinct {α : Type u} {β : Type v} [DecidableEq α] (key : α) (entries : List (α × β))
    (distinct : (entries.map Prod.fst).Nodup) : ((drop key entries).map Prod.fst).Nodup :=
  distinct.sublist ((drop_sublist key entries).map _)

def empty {α : Type u} {β : Type v} : Table α β := ⟨[], List.nodup_nil⟩

instance {α : Type u} {β : Type v} : Inhabited (Table α β) := ⟨empty⟩

def get? {α : Type u} {β : Type v} [DecidableEq α] (t : Table α β) (key : α) : Option β := lookup key t.entries

def contains {α : Type u} {β : Type v} [DecidableEq α] (t : Table α β) (key : α) : Bool := (t.get? key).isSome

def keys {α : Type u} {β : Type v} (t : Table α β) : List α := t.entries.map Prod.fst

def values {α : Type u} {β : Type v} (t : Table α β) : List β := t.entries.map Prod.snd

def size {α : Type u} {β : Type v} (t : Table α β) : Nat := t.entries.length

def isEmpty {α : Type u} {β : Type v} (t : Table α β) : Bool := t.entries.isEmpty

def insert {α : Type u} {β : Type v} [DecidableEq α] (t : Table α β) (key : α) (value : β) : Table α β :=
  ⟨write key value t.entries, write_distinct key value t.entries t.distinct⟩

def erase {α : Type u} {β : Type v} [DecidableEq α] (t : Table α β) (key : α) : Table α β :=
  ⟨drop key t.entries, drop_distinct key t.entries t.distinct⟩

-- A missing value counts as `default`.
def adjust {α : Type u} {β : Type v} [DecidableEq α] (t : Table α β) (key : α) (default : β) (change : β → β) : Table α β :=
  t.insert key (change ((t.get? key).getD default))

def ofList {α : Type u} {β : Type v} [DecidableEq α] (entries : List (α × β)) : Table α β :=
  entries.foldl (fun t entry => t.insert entry.1 entry.2) empty

def filter {α : Type u} {β : Type v} (t : Table α β) (keep : α → β → Bool) : Table α β :=
  ⟨t.entries.filter fun entry => keep entry.1 entry.2,
    t.distinct.sublist ((List.filter_sublist (l := t.entries)).map _)⟩

def mapValues {α : Type u} {β : Type v} {γ : Type w} (t : Table α β) (f : α → β → γ) : Table α γ :=
  ⟨t.entries.map fun entry => (entry.1, f entry.1 entry.2), by
    have keep : (t.entries.map fun entry => (entry.1, f entry.1 entry.2)).map Prod.fst = t.entries.map Prod.fst := by
      simp [List.map_map, Function.comp_def]
    rw [keep]; exact t.distinct⟩

def same {α : Type u} {β : Type v} [DecidableEq α] (sameValue : β → β → Bool) (a b : Table α β) : Bool :=
  a.size == b.size && a.entries.all fun entry => (b.get? entry.1).any (sameValue entry.2)

instance {α : Type u} {β : Type v} [DecidableEq α] [BEq β] : BEq (Table α β) := ⟨same (· == ·)⟩

theorem lookup_write {α : Type u} {β : Type v} [DecidableEq α] (key k : α) (value : β) (entries : List (α × β)) :
    lookup k (write key value entries) = if key = k then some value else lookup k entries := by
  induction entries with
  | nil => simp [write, lookup]
  | cons head rest ih =>
      obtain ⟨k', v'⟩ := head
      by_cases h : k' = key
      · subst h
        by_cases g : k' = k <;> simp [write, lookup, g]
      · by_cases g : k' = k
        · subst g
          simp [write, lookup, h, Ne.symm h]
        · simp [write, lookup, h, g, ih]

theorem lookup_eq_none_iff {α : Type u} {β : Type v} [DecidableEq α] (key : α) (entries : List (α × β)) :
    lookup key entries = none ↔ key ∉ entries.map Prod.fst := by
  induction entries with
  | nil => simp [lookup]
  | cons head rest ih =>
      obtain ⟨k, v⟩ := head
      by_cases h : k = key
      · subst h; simp [lookup]
      · simp [lookup, h, ih, Ne.symm h]

theorem lookup_drop {α : Type u} {β : Type v} [DecidableEq α] (key k : α) (entries : List (α × β))
    (distinct : (entries.map Prod.fst).Nodup) :
    lookup k (drop key entries) = if key = k then none else lookup k entries := by
  induction entries with
  | nil => simp [drop, lookup]
  | cons head rest ih =>
      obtain ⟨k', v'⟩ := head
      simp only [List.map_cons, List.nodup_cons] at distinct
      by_cases h : k' = key
      · subst h
        by_cases g : k' = k
        · subst g
          simpa [drop] using (lookup_eq_none_iff k' rest).2 distinct.1
        · simp [drop, lookup, g]
      · by_cases g : k' = k
        · subst g
          simp [drop, lookup, h, Ne.symm h]
        · simp [drop, lookup, h, g, ih distinct.2]

@[simp] theorem get?_empty {α : Type u} {β : Type v} [DecidableEq α] (key : α) :
    (empty : Table α β).get? key = none := rfl

theorem get?_insert {α : Type u} {β : Type v} [DecidableEq α] (t : Table α β) (key k : α) (value : β) :
    (t.insert key value).get? k = if key = k then some value else t.get? k :=
  lookup_write key k value t.entries

theorem get?_erase {α : Type u} {β : Type v} [DecidableEq α] (t : Table α β) (key k : α) :
    (t.erase key).get? k = if key = k then none else t.get? k :=
  lookup_drop key k t.entries t.distinct

theorem get?_eq_none_iff {α : Type u} {β : Type v} [DecidableEq α] (t : Table α β) (key : α) :
    t.get? key = none ↔ key ∉ t.keys := lookup_eq_none_iff key t.entries

end Table
end RegionWiring
