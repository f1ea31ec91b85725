import Mathlib.Data.List.Perm.Subperm
import RegionWiring.Collection.Members
import RegionWiring.Collection.Table

namespace RegionWiring

universe u v w

theorem mem_intercalate {α : Type u} {separator : List α} {pieces : List (List α)} {a : α}
    (inside : a ∈ separator.intercalate pieces) : a ∈ separator ∨ ∃ piece ∈ pieces, a ∈ piece := by
  induction pieces with
  | nil => cases inside
  | cons piece rest ih =>
      cases rest with
      | nil => exact .inr ⟨piece, List.mem_cons_self, by simpa using inside⟩
      | cons next later =>
          rw [List.intercalate_cons_cons, List.append_assoc, List.mem_append, List.mem_append] at inside
          rcases inside with first | between | behind
          · exact .inr ⟨piece, List.mem_cons_self, first⟩
          · exact .inl between
          · rcases ih behind with between | ⟨other, inRest, inOther⟩
            · exact .inl between
            · exact .inr ⟨other, List.mem_cons_of_mem _ inRest, inOther⟩

namespace Members

variable {α : Type u}

theorem eq_of_items {s t : Members α} (same : s.items = t.items) : s = t := by
  cases s
  cases t
  cases same
  rfl

theorem isEmpty_iff (s : Members α) : s.isEmpty = true ↔ s.items = [] := by
  simp [isEmpty]

variable [DecidableEq α]

theorem contains_iff (s : Members α) (a : α) : s.contains a = true ↔ a ∈ s.items := by
  simp [contains]

theorem union_append (s : Members α) (first second : List α) :
    s.union (first ++ second) = (s.union first).union second :=
  List.foldl_append

theorem ofList_append (first second : List α) : ofList (first ++ second) = (ofList first).union second :=
  union_append empty first second

theorem items_insert_absent {s : Members α} {a : α} (outside : a ∉ s.items) : (s.insert a).items = s.items ++ [a] :=
  if_neg outside

theorem insert_present {s : Members α} {a : α} (inside : a ∈ s.items) : s.insert a = s :=
  eq_of_items (if_pos inside)

theorem union_present {s : Members α} {more : List α} (inside : ∀ a ∈ more, a ∈ s.items) : s.union more = s := by
  induction more with
  | nil => rfl
  | cons a rest ih =>
      obtain ⟨first, others⟩ := List.forall_mem_cons.1 inside
      show (s.insert a).union rest = s
      rw [insert_present first, ih others]

-- Each new item goes behind those already there.
theorem foldl_enter (items present : List α) :
    items.foldl enter present = present ++ (items.filter fun a => a ∉ present).eraseDups := by
  induction items generalizing present with
  | nil => simp
  | cons a rest ih =>
      rw [List.foldl_cons, ih]
      by_cases inside : a ∈ present
      · simp [enter, inside]
      · have apart : (rest.filter fun b => b ∉ present ++ [a]) = (rest.filter fun b => b ∉ present).filter fun b => !b == a := by
          rw [List.filter_filter]
          apply List.filter_congr
          intro b _
          by_cases same : b = a <;> simp [same]
        rw [enter, if_neg inside, apart, List.filter_cons, if_pos (decide_eq_true inside), List.eraseDups_cons, List.append_assoc]
        rfl

theorem items_union (s : Members α) (more : List α) : (s.union more).items = more.foldl enter s.items := by
  induction more generalizing s with
  | nil => rfl
  | cons a rest ih => exact ih (s.insert a)

theorem items_ofList (items : List α) : (ofList items).items = items.eraseDups := by
  have all : (items.filter fun a => a ∉ ([] : List α)) = items := List.filter_eq_self.2 (by simp)
  rw [ofList, items_union]
  exact (foldl_enter items []).trans (congrArg List.eraseDups all)

theorem ofList_items (s : Members α) : ofList s.items = s := by
  have kept (items : List α) (distinct : items.Nodup) : items.eraseDups = items := by
    induction items with
    | nil => rfl
    | cons a rest ih =>
        obtain ⟨absent, others⟩ := List.nodup_cons.1 distinct
        have apart : (rest.filter fun b => !b == a) = rest := by
          rw [List.filter_eq_self]
          intro b inside
          have different : b ≠ a := fun same => absent (same ▸ inside)
          simp [different]
        rw [List.eraseDups_cons, apart, ih others]
  exact eq_of_items ((items_ofList s.items).trans (kept s.items s.distinct))

-- Members are not repeated, so equal sizes and one inclusion are enough.
theorem same_iff (a b : Members α) : (a == b) = true ↔ ∀ x, x ∈ a.items ↔ x ∈ b.items := by
  have parts : (a == b) = true ↔ a.items.length = b.items.length ∧ ∀ x ∈ a.items, x ∈ b.items := by
    show same a b = true ↔ _
    simp [same, size, contains_iff]
  rw [parts]
  constructor
  · rintro ⟨sizes, inside⟩ x
    have permuted := (List.subperm_of_subset a.distinct inside).perm_of_length_le (Nat.le_of_eq sizes.symm)
    exact permuted.mem_iff
  · intro members
    have permuted := (List.perm_ext_iff_of_nodup a.distinct b.distinct).2 members
    exact ⟨permuted.length_eq, fun x inside => (members x).1 inside⟩

end Members

namespace Table

variable {α : Type u} {β : Type v} {γ : Type w}

theorem eq_of_entries {t u : Table α β} (same : t.entries = u.entries) : t = u := by
  cases t
  cases u
  cases same
  rfl

theorem keys_mapValues (t : Table α β) (f : α → β → γ) : (t.mapValues f).keys = t.keys := by
  simp [keys, mapValues, Function.comp_def]

theorem keys_filter (t : Table α β) (keep : α → Bool) : (t.filter fun key _ => keep key).keys = t.keys.filter keep := by
  rw [keys, keys, List.filter_map]
  rfl

variable [DecidableEq α]

theorem lookup_eq_some_iff (key : α) (value : β) (entries : List (α × β))
    (distinct : (entries.map Prod.fst).Nodup) : lookup key entries = some value ↔ (key, value) ∈ entries := by
  induction entries with
  | nil => simp [lookup]
  | cons head rest ih =>
      obtain ⟨k, v⟩ := head
      simp only [List.map_cons, List.nodup_cons] at distinct
      by_cases h : k = key
      · subst h
        have absent : (k, value) ∉ rest := fun inside => distinct.1 (List.mem_map_of_mem (f := Prod.fst) inside)
        simp [lookup, absent, eq_comm]
      · simp [lookup, h, Ne.symm h, ih distinct.2]

theorem get?_eq_some_iff (t : Table α β) (key : α) (value : β) :
    t.get? key = some value ↔ (key, value) ∈ t.entries :=
  lookup_eq_some_iff key value t.entries t.distinct

theorem contains_iff (t : Table α β) (key : α) : t.contains key = true ↔ key ∈ t.keys := by
  rw [contains, Option.isSome_iff_ne_none, ne_eq, get?_eq_none_iff]
  exact Decidable.not_not

theorem get?_filter (t : Table α β) (keep : α → β → Bool) (key : α) :
    (t.filter keep).get? key = (t.get? key).filter (keep key) := by
  cases found : t.get? key with
  | none =>
      have absent := (get?_eq_none_iff t key).1 found
      apply (get?_eq_none_iff _ key).2
      intro inside
      obtain ⟨entry, member, rfl⟩ := List.mem_map.1 inside
      exact absent (List.mem_map_of_mem (List.mem_filter.1 member).1)
  | some value =>
      have member := (get?_eq_some_iff t key value).1 found
      by_cases h : keep key value = true
      · rw [Option.filter_some_pos h, get?_eq_some_iff]
        exact List.mem_filter.2 ⟨member, h⟩
      · rw [Option.filter_some_neg (Bool.eq_false_iff.2 h), get?_eq_none_iff]
        intro inside
        obtain ⟨⟨k, v⟩, kept, rfl⟩ := List.mem_map.1 inside
        obtain ⟨original, passed⟩ := List.mem_filter.1 kept
        have same := (get?_eq_some_iff t k v).2 original
        rw [found] at same
        cases same
        exact h passed

theorem lookup_map (f : α → β → γ) (key : α) (entries : List (α × β)) :
    lookup key (entries.map fun entry => (entry.1, f entry.1 entry.2)) = (lookup key entries).map (f key) := by
  induction entries with
  | nil => rfl
  | cons head rest ih =>
      obtain ⟨k, v⟩ := head
      by_cases h : k = key
      · subst h; simp [lookup]
      · simp [lookup, h, ih]

theorem get?_mapValues (t : Table α β) (f : α → β → γ) (key : α) :
    (t.mapValues f).get? key = (t.get? key).map (f key) :=
  lookup_map f key t.entries

theorem entries_insert_absent (t : Table α β) (key : α) (value : β) (absent : key ∉ t.keys) :
    (t.insert key value).entries = t.entries ++ [(key, value)] := by
  show write key value t.entries = _
  change key ∉ t.entries.map Prod.fst at absent
  generalize t.entries = entries at absent
  induction entries with
  | nil => rfl
  | cons head rest ih =>
      obtain ⟨k, v⟩ := head
      simp only [List.map_cons, List.mem_cons, not_or] at absent
      simp [write, Ne.symm absent.1, ih absent.2]

theorem entries_insert_present (t : Table α β) (key : α) (value : β) (present : key ∈ t.keys) :
    (t.insert key value).entries = t.entries.map fun entry => if entry.1 = key then (key, value) else entry := by
  show write key value t.entries = _
  change key ∈ t.entries.map Prod.fst at present
  have distinct := t.distinct
  generalize t.entries = entries at present distinct
  induction entries with
  | nil => cases present
  | cons head rest ih =>
      obtain ⟨k, v⟩ := head
      simp only [List.map_cons, List.nodup_cons] at distinct
      by_cases h : k = key
      · subst h
        have others : ∀ entry ∈ rest, (if entry.1 = k then (k, value) else entry) = entry := by
          intro entry inside
          have different : entry.1 ≠ k := fun same => distinct.1 (same ▸ List.mem_map_of_mem inside)
          exact if_neg different
        simp [write, List.map_congr_left others]
      · have later : key ∈ rest.map Prod.fst := by simpa [Ne.symm h] using present
        simp [write, h, ih later distinct.2]

theorem keys_insert (t : Table α β) (key : α) (value : β) :
    (t.insert key value).keys = Members.enter t.keys key := by
  by_cases inside : key ∈ t.keys
  · have each : ∀ entry ∈ t.entries, (if entry.1 = key then (key, value) else entry).1 = entry.1 := by
      intro entry _
      split
      · rename_i same
        exact same.symm
      · rfl
    rw [keys, entries_insert_present _ _ _ inside, Members.enter, if_pos inside, List.map_map]
    exact List.map_congr_left each
  · rw [keys, entries_insert_absent _ _ _ inside, Members.enter, if_neg inside, List.map_append]
    rfl

theorem entries_erase (t : Table α β) (key : α) :
    (t.erase key).entries = t.entries.filter fun entry => entry.1 ≠ key := by
  show drop key t.entries = _
  have distinct := t.distinct
  generalize t.entries = entries at distinct
  induction entries with
  | nil => rfl
  | cons head rest ih =>
      obtain ⟨k, v⟩ := head
      simp only [List.map_cons, List.nodup_cons] at distinct
      by_cases h : k = key
      · subst h
        have others : ∀ entry ∈ rest, entry.1 ≠ k := fun entry inside same =>
          distinct.1 (same ▸ List.mem_map_of_mem inside)
        simpa [drop] using (List.filter_eq_self.2 (by simpa using others)).symm
      · simp [drop, h, ih distinct.2]

theorem entries_foldl_insert (entries : List (α × β)) (t : Table α β) (distinct : ((t.entries ++ entries).map Prod.fst).Nodup) :
    (entries.foldl (fun t entry => t.insert entry.1 entry.2) t).entries = t.entries ++ entries := by
  induction entries generalizing t with
  | nil => simp
  | cons head rest ih =>
      have absent : head.1 ∉ t.keys := by
        rw [List.map_append, List.nodup_append] at distinct
        intro inside
        exact distinct.2.2 head.1 inside head.1 List.mem_cons_self rfl
      have behind := entries_insert_absent t head.1 head.2 absent
      rw [List.foldl_cons, ih]
      · rw [behind, List.append_assoc]; rfl
      · rwa [behind, List.append_assoc]

theorem entries_ofList (entries : List (α × β)) (distinct : (entries.map Prod.fst).Nodup) : (ofList entries).entries = entries :=
  entries_foldl_insert entries empty distinct

theorem lookup_filterMap (f : α → Option β) (keys : List α) (key : α) :
    lookup key (keys.filterMap fun k => (f k).map (k, ·)) = if key ∈ keys then f key else none := by
  induction keys with
  | nil => rfl
  | cons k rest ih =>
      by_cases same : k = key
      · subst same
        cases value : f k <;> simp [value, lookup, ih]
      · cases value : f k <;> simp [value, lookup, ih, same, Ne.symm same]

theorem mem_keys_iff (t : Table α β) (key : α) : key ∈ t.keys ↔ ∃ value, t.get? key = some value := by
  rw [← contains_iff, contains, Option.isSome_iff_exists]

theorem same_iff [BEq β] (a b : Table α β) :
    (a == b) = true ↔ ∀ key, Option.Rel (fun v w => (v == w) = true) (a.get? key) (b.get? key) := by
  have parts : (a == b) = true ↔ a.keys.length = b.keys.length ∧
      ∀ key v, a.get? key = some v → ∃ w, b.get? key = some w ∧ (v == w) = true := by
    show same (· == ·) a b = true ↔ _
    simp [same, size, keys, get?_eq_some_iff, Option.any_eq_true]
  rw [parts]
  constructor
  · rintro ⟨sizes, found⟩ key
    have included : a.keys ⊆ b.keys := by
      intro k inside
      obtain ⟨v, there⟩ := (mem_keys_iff a k).1 inside
      obtain ⟨w, also, _⟩ := found k v there
      exact (mem_keys_iff b k).2 ⟨w, also⟩
    have permuted := (List.subperm_of_subset a.distinct included).perm_of_length_le (Nat.le_of_eq sizes.symm)
    cases here : a.get? key with
    | some v =>
        obtain ⟨w, also, equal⟩ := found key v here
        rw [also]
        exact .some equal
    | none =>
        have missing : key ∉ b.keys := fun inside => (get?_eq_none_iff a key).1 here (permuted.mem_iff.2 inside)
        rw [(get?_eq_none_iff b key).2 missing]
        exact .none
  · intro related
    have keysAgree : ∀ key, key ∈ a.keys ↔ key ∈ b.keys := by
      intro key
      have both := related key
      rw [mem_keys_iff, mem_keys_iff]
      generalize a.get? key = here, b.get? key = there at both
      cases both <;> simp
    refine ⟨((List.perm_ext_iff_of_nodup a.distinct b.distinct).2 keysAgree).length_eq, ?_⟩
    intro key v here
    have equal := related key
    rw [here] at equal
    cases also : b.get? key with
    | none => rw [also] at equal; cases equal
    | some w =>
        rw [also] at equal
        cases equal with
        | some equal => exact ⟨w, rfl, equal⟩

end Table
end RegionWiring
