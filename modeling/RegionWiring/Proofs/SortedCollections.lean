import Mathlib.Data.List.Induction
import Mathlib.Data.List.Nodup
import RegionWiring.Collection.Sorted

namespace RegionWiring

universe v w

namespace SortedTable

variable {β : Type v}

theorem lookup_map {γ : Type w} (f : β → γ) (entries : List (String × β)) (key : String) :
    lookup key (entries.map fun entry => (entry.1, f entry.2)) = (lookup key entries).map f := by
  induction entries with
  | nil => rfl
  | cons head rest ih =>
      obtain ⟨k, v⟩ := head
      by_cases same : k = key <;> simp [lookup, same, ih]

theorem lookup_eq_some_iff {key : String} {value : β} {entries : List (String × β)} (distinct : (entries.map Prod.fst).Nodup) :
    lookup key entries = some value ↔ (key, value) ∈ entries := by
  induction entries with
  | nil => simp [lookup]
  | cons head rest ih =>
      obtain ⟨k, v⟩ := head
      obtain ⟨fresh, others⟩ := List.nodup_cons.1 distinct
      by_cases same : k = key
      · subst same
        have absent : (k, value) ∉ rest := fun inside => fresh (List.mem_map.2 ⟨_, inside, rfl⟩)
        simp [lookup, absent, eq_comm]
      · simp [lookup, same, ih others, Ne.symm same]

theorem keys_distinct (t : SortedTable β) : (t.entries.map Prod.fst).Nodup :=
  t.sorted.imp fun less => String.ne_of_lt less

-- The order is that of the keys, so the values decide.
theorem eq_of_get? {t u : SortedTable β} (same : ∀ key, t.get? key = u.get? key) : t = u := by
  have members : t.entries.Perm u.entries := by
    rw [List.perm_ext_iff_of_nodup t.keys_distinct.of_map u.keys_distinct.of_map]
    rintro ⟨key, value⟩
    rw [← lookup_eq_some_iff t.keys_distinct, ← lookup_eq_some_iff u.keys_distinct]
    exact iff_of_eq (congrArg (· = some value) (same key))
  have ordered (t : SortedTable β) : t.entries.Pairwise fun a b => a.1 < b.1 := List.pairwise_map.1 t.sorted
  have entries : t.entries = u.entries :=
    members.eq_of_pairwise (fun a b _ _ before after => absurd before (String.lt_asymm after)) (ordered t) (ordered u)
  cases t
  cases u
  cases entries
  rfl

theorem get?_ofList (entries : List (String × β)) (key : String) : (ofList entries).get? key = lookup key entries.reverse := by
  induction entries using List.reverseRecOn with
  | nil => rfl
  | append_singleton entries entry ih =>
      have entered : ofList (entries ++ [entry]) = (ofList entries).insert entry.1 entry.2 := by simp [ofList]
      rw [entered, get?_insert, ih, List.reverse_append]
      rfl

theorem ofList_eq_iff {entries : List (String × β)} {t : SortedTable β} :
    ofList entries = t ↔ ∀ key, t.get? key = lookup key entries.reverse := by
  constructor
  · rintro rfl
    exact get?_ofList entries
  · intro values
    exact eq_of_get? fun key => (get?_ofList entries key).trans (values key).symm

theorem lookup_perm {entries others : List (String × β)} (same : entries.Perm others) (distinct : (others.map Prod.fst).Nodup)
    (key : String) : lookup key entries = lookup key others := by
  have alsoDistinct : (entries.map Prod.fst).Nodup := (same.map Prod.fst).nodup_iff.2 distinct
  apply Option.ext
  intro value
  rw [lookup_eq_some_iff alsoDistinct, lookup_eq_some_iff distinct, same.mem_iff]

theorem ofList_perm {entries : List (String × β)} {t : SortedTable β} (same : entries.Perm t.entries) : ofList entries = t :=
  ofList_eq_iff.2 fun key => (lookup_perm (entries.reverse_perm.trans same) t.keys_distinct key).symm

theorem write_last {key : String} (value : β) {entries : List (String × β)}
    (last : ∀ k ∈ entries.map Prod.fst, k < key) : write key value entries = entries ++ [(key, value)] := by
  induction entries with
  | nil => rfl
  | cons head rest ih =>
      obtain ⟨k, v⟩ := head
      have before : k < key := last k List.mem_cons_self
      have different : key ≠ k := fun same => String.lt_irrefl k (same ▸ before)
      have later := ih fun other inside => last other (List.mem_cons_of_mem k inside)
      rw [write, if_neg (String.lt_asymm before), if_neg different, later, List.cons_append]

-- All keys entered so far are before those to come.
theorem foldl_insert_entries (later : List (String × β)) (t : SortedTable β)
    (sorted : ((t.entries ++ later).map Prod.fst).Pairwise (· < ·)) :
    (later.foldl (fun t entry => t.insert entry.1 entry.2) t).entries = t.entries ++ later := by
  induction later generalizing t with
  | nil => simp
  | cons entry later ih =>
      have last : ∀ k ∈ t.entries.map Prod.fst, k < entry.1 := by
        intro k inside
        rw [List.map_append] at sorted
        exact (List.pairwise_append.1 sorted).2.2 k inside entry.1 List.mem_cons_self
      have entered : (t.insert entry.1 entry.2).entries = t.entries ++ [entry] := write_last entry.2 last
      have rest := ih (t.insert entry.1 entry.2) (by simpa [entered] using sorted)
      simpa [entered] using rest

theorem ofList_entries (t : SortedTable β) : ofList t.entries = t := by
  have same : (ofList t.entries).entries = t.entries := foldl_insert_entries t.entries empty t.sorted
  cases t
  cases h : ofList _
  simp_all

end SortedTable

namespace SortedSet

theorem enter_last {a : String} {items : List String} (last : ∀ b ∈ items, b < a) : enter a items = items ++ [a] := by
  induction items with
  | nil => rfl
  | cons b rest ih =>
      have before : b < a := last b List.mem_cons_self
      have different : a ≠ b := fun same => String.lt_irrefl b (same ▸ before)
      have later := ih fun other inside => last other (List.mem_cons_of_mem b inside)
      rw [enter, if_neg (String.lt_asymm before), if_neg different, later, List.cons_append]

theorem foldl_insert_items (later : List String) (s : SortedSet) (sorted : (s.items ++ later).Pairwise (· < ·)) :
    (later.foldl insert s).items = s.items ++ later := by
  induction later generalizing s with
  | nil => simp
  | cons a later ih =>
      have last : ∀ b ∈ s.items, b < a := fun b inside =>
        (List.pairwise_append.1 sorted).2.2 b inside a List.mem_cons_self
      have entered : (s.insert a).items = s.items ++ [a] := enter_last last
      have rest := ih (s.insert a) (by simpa [entered] using sorted)
      simpa [entered] using rest

theorem ofList_items (s : SortedSet) : ofList s.items = s := by
  have same : (ofList s.items).items = s.items := foldl_insert_items s.items empty s.sorted
  cases s
  cases h : ofList _
  simp_all

theorem mem_ofList (items : List String) (a : String) : a ∈ (ofList items).items ↔ a ∈ items := by
  induction items using List.reverseRecOn with
  | nil => simp [ofList, empty]
  | append_singleton items b ih =>
      have entered : ofList (items ++ [b]) = (ofList items).insert b := by simp [ofList]
      rw [entered, mem_insert, ih, List.mem_append, List.mem_singleton, or_comm]

theorem eq_of_mem {s t : SortedSet} (same : ∀ a, a ∈ s.items ↔ a ∈ t.items) : s = t := by
  have distinct (s : SortedSet) : s.items.Nodup := s.sorted.imp fun less => String.ne_of_lt less
  have members : s.items.Perm t.items := (List.perm_ext_iff_of_nodup (distinct s) (distinct t)).2 same
  have items : s.items = t.items :=
    members.eq_of_pairwise (fun a b _ _ before after => absurd before (String.lt_asymm after)) s.sorted t.sorted
  cases s
  cases t
  cases items
  rfl

end SortedSet
end RegionWiring
