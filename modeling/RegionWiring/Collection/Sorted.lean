namespace RegionWiring

universe v w

structure SortedTable (β : Type v) where
  entries : List (String × β)
  sorted : (entries.map Prod.fst).Pairwise (· < ·)

namespace SortedTable

def lookup {β : Type v} (key : String) : List (String × β) → Option β
  | [] => none
  | (k, v) :: rest => if k = key then some v else lookup key rest

def write {β : Type v} (key : String) (value : β) : List (String × β) → List (String × β)
  | [] => [(key, value)]
  | (k, v) :: rest =>
      if key < k then (key, value) :: (k, v) :: rest
      else if key = k then (key, value) :: rest
      else (k, v) :: write key value rest

def drop {β : Type v} (key : String) : List (String × β) → List (String × β)
  | [] => []
  | (k, v) :: rest => if k = key then rest else (k, v) :: drop key rest

theorem key_mem_write {β : Type v} (key k : String) (value : β) (entries : List (String × β)) :
    k ∈ (write key value entries).map Prod.fst ↔ k = key ∨ k ∈ entries.map Prod.fst := by
  induction entries with
  | nil => simp [write]
  | cons head rest ih =>
      obtain ⟨k', v'⟩ := head
      unfold write
      split
      · simp
      · split
        · rename_i same; subst same; simp
        · simp only [List.map_cons, List.mem_cons, ih]
          exact or_left_comm

theorem lt_of_not_lt_of_ne {a b : String} (notLess : ¬ a < b) (different : a ≠ b) : b < a := by
  rcases Decidable.em (b < a) with h | h
  · exact h
  · exact absurd (String.le_antisymm (String.not_lt.1 h) (String.not_lt.1 notLess)) different

theorem write_sorted {β : Type v} (key : String) (value : β) (entries : List (String × β))
    (sorted : (entries.map Prod.fst).Pairwise (· < ·)) :
    ((write key value entries).map Prod.fst).Pairwise (· < ·) := by
  induction entries with
  | nil => simp [write]
  | cons head rest ih =>
      obtain ⟨k, v⟩ := head
      have parts := List.pairwise_cons.1 sorted
      unfold write
      split
      · rename_i less
        refine List.pairwise_cons.2 ⟨?_, sorted⟩
        intro other inside
        simp only [List.map_cons, List.mem_cons] at inside
        rcases inside with rfl | later
        · exact less
        · exact String.lt_trans less (parts.1 other later)
      · rename_i notLess
        split
        · rename_i same; subst same; exact sorted
        · rename_i different
          refine List.pairwise_cons.2 ⟨?_, ih parts.2⟩
          intro other inside
          rcases (key_mem_write key other value rest).1 inside with rfl | later
          · exact lt_of_not_lt_of_ne notLess different
          · exact parts.1 other later

theorem drop_sublist {β : Type v} (key : String) (entries : List (String × β)) :
    (drop key entries).Sublist entries := by
  induction entries with
  | nil => exact .slnil
  | cons head rest ih =>
      obtain ⟨k, v⟩ := head
      by_cases h : k = key
      · simp only [drop, if_pos h]; exact .cons _ (List.Sublist.refl _)
      · simp only [drop, if_neg h]; exact .cons_cons _ ih

def empty {β : Type v} : SortedTable β := ⟨[], .nil⟩

instance {β : Type v} : Inhabited (SortedTable β) := ⟨empty⟩

def get? {β : Type v} (t : SortedTable β) (key : String) : Option β := lookup key t.entries

def contains {β : Type v} (t : SortedTable β) (key : String) : Bool := (t.get? key).isSome

def size {β : Type v} (t : SortedTable β) : Nat := t.entries.length

def isEmpty {β : Type v} (t : SortedTable β) : Bool := t.entries.isEmpty

def insert {β : Type v} (t : SortedTable β) (key : String) (value : β) : SortedTable β :=
  ⟨write key value t.entries, write_sorted key value t.entries t.sorted⟩

def erase {β : Type v} (t : SortedTable β) (key : String) : SortedTable β :=
  ⟨drop key t.entries, t.sorted.sublist ((drop_sublist key t.entries).map _)⟩

-- The last value of a repeated key counts.
def ofList {β : Type v} (entries : List (String × β)) : SortedTable β :=
  entries.foldl (fun t entry => t.insert entry.1 entry.2) empty

theorem lookup_write {β : Type v} (key k : String) (value : β) (entries : List (String × β)) :
    lookup k (write key value entries) = if key = k then some value else lookup k entries := by
  induction entries with
  | nil => simp [write, lookup]
  | cons head rest ih =>
      obtain ⟨k', v'⟩ := head
      unfold write
      split
      · simp [lookup]
      · split
        · rename_i same; subst same
          by_cases g : key = k <;> simp [lookup, g]
        · rename_i different
          by_cases g : k' = k
          · subst g; simp [lookup, different]
          · simp [lookup, g, ih]

theorem lookup_eq_none_iff {β : Type v} (key : String) (entries : List (String × β)) :
    lookup key entries = none ↔ key ∉ entries.map Prod.fst := by
  induction entries with
  | nil => simp [lookup]
  | cons head rest ih =>
      obtain ⟨k, v⟩ := head
      by_cases h : k = key
      · subst h; simp [lookup]
      · simp [lookup, h, ih, Ne.symm h]

theorem not_mem_of_all_greater {key : String} {keys : List String} (greater : ∀ k ∈ keys, key < k) : key ∉ keys :=
  fun inside => String.lt_irrefl key (greater key inside)

theorem lookup_drop {β : Type v} (key k : String) (entries : List (String × β))
    (sorted : (entries.map Prod.fst).Pairwise (· < ·)) :
    lookup k (drop key entries) = if key = k then none else lookup k entries := by
  induction entries with
  | nil => simp [drop, lookup]
  | cons head rest ih =>
      obtain ⟨k', v'⟩ := head
      have parts := List.pairwise_cons.1 sorted
      by_cases h : k' = key
      · subst h
        by_cases g : k' = k
        · subst g
          simpa [drop] using (lookup_eq_none_iff k' rest).2 (not_mem_of_all_greater parts.1)
        · simp [drop, lookup, g]
      · by_cases g : k' = k
        · subst g
          simp [drop, lookup, h, Ne.symm h]
        · simp [drop, lookup, h, g, ih parts.2]

@[simp] theorem get?_empty {β : Type v} (key : String) : (empty : SortedTable β).get? key = none := rfl

theorem get?_insert {β : Type v} (t : SortedTable β) (key k : String) (value : β) :
    (t.insert key value).get? k = if key = k then some value else t.get? k :=
  lookup_write key k value t.entries

theorem get?_erase {β : Type v} (t : SortedTable β) (key k : String) :
    (t.erase key).get? k = if key = k then none else t.get? k :=
  lookup_drop key k t.entries t.sorted

end SortedTable

structure SortedSet where
  items : List String
  sorted : items.Pairwise (· < ·)

namespace SortedSet

def enter (a : String) : List String → List String
  | [] => [a]
  | b :: rest => if a < b then a :: b :: rest else if a = b then b :: rest else b :: enter a rest

theorem mem_enter (a x : String) (items : List String) : x ∈ enter a items ↔ x = a ∨ x ∈ items := by
  induction items with
  | nil => simp [enter]
  | cons b rest ih =>
      unfold enter
      split
      · simp
      · split
        · rename_i same; subst same; simp
        · simp only [List.mem_cons, ih]
          exact or_left_comm

theorem enter_sorted (a : String) (items : List String) (sorted : items.Pairwise (· < ·)) :
    (enter a items).Pairwise (· < ·) := by
  induction items with
  | nil => simp [enter]
  | cons b rest ih =>
      have parts := List.pairwise_cons.1 sorted
      unfold enter
      split
      · rename_i less
        refine List.pairwise_cons.2 ⟨?_, sorted⟩
        intro other inside
        rcases List.mem_cons.1 inside with rfl | later
        · exact less
        · exact String.lt_trans less (parts.1 other later)
      · rename_i notLess
        split
        · exact sorted
        · rename_i different
          refine List.pairwise_cons.2 ⟨?_, ih parts.2⟩
          intro other inside
          rcases (mem_enter a other rest).1 inside with rfl | later
          · exact SortedTable.lt_of_not_lt_of_ne notLess different
          · exact parts.1 other later

def empty : SortedSet := ⟨[], .nil⟩

instance : Inhabited SortedSet := ⟨empty⟩

instance : DecidableEq SortedSet := fun a b =>
  if h : a.items = b.items then .isTrue (by cases a; cases b; cases h; rfl)
  else .isFalse fun same => h (congrArg items same)

def insert (s : SortedSet) (a : String) : SortedSet := ⟨enter a s.items, enter_sorted a s.items s.sorted⟩

def ofList (items : List String) : SortedSet := items.foldl insert empty

def contains (s : SortedSet) (a : String) : Bool := decide (a ∈ s.items)

theorem mem_insert (s : SortedSet) (a x : String) : x ∈ (s.insert a).items ↔ x = a ∨ x ∈ s.items :=
  mem_enter a x s.items

end SortedSet
end RegionWiring
