import Mathlib.Data.List.Induction
import RegionWiring.Proofs.Collections

namespace RegionWiring

universe u v

theorem rel_equivalence {β : Type v} {r : β → β → Prop} (values : Equivalence r) : Equivalence (Option.Rel r) where
  refl found := by
    cases found with
    | none => exact .none
    | some value => exact .some (values.refl value)
  symm related := by
    cases related with
    | none => exact .none
    | some equal => exact .some (values.symm equal)
  trans first second := by
    cases first with
    | none => exact second
    | some equal =>
        cases second with
        | some also => exact .some (values.trans equal also)

theorem list_beq_iff {β : Type v} [BEq β] (xs ys : List β) :
    (xs == ys) = true ↔ List.Forall₂ (fun x y => (x == y) = true) xs ys := by
  induction xs generalizing ys with
  | nil => cases ys <;> simp
  | cons x rest ih => cases ys <;> simp [ih]

theorem Members.same_equivalence {α : Type u} [DecidableEq α] : Equivalence fun s t : Members α => (s == t) = true where
  refl s := (same_iff s s).2 fun _ => Iff.rfl
  symm same := (same_iff _ _).2 fun a => ((same_iff _ _).1 same a).symm
  trans first second := (same_iff _ _).2 fun a => ((same_iff _ _).1 first a).trans ((same_iff _ _).1 second a)

namespace Table

variable {α : Type u} {β : Type v} [DecidableEq α]

def lastValue (entries : List (α × β)) (key : α) : Option β :=
  (entries.filter fun entry => entry.1 = key).getLast?.map Prod.snd

section Listed

theorem ofList_snoc (entries : List (α × β)) (entry : α × β) :
    ofList (entries ++ [entry]) = (ofList entries).insert entry.1 entry.2 := by
  simp [ofList]

theorem lastValue_snoc (entries : List (α × β)) (entry : α × β) (key : α) :
    lastValue (entries ++ [entry]) key = if entry.1 = key then some entry.2 else lastValue entries key := by
  by_cases same : entry.1 = key <;> simp [lastValue, List.filter_append, same]

theorem get?_ofList (entries : List (α × β)) (key : α) : (ofList entries).get? key = lastValue entries key := by
  induction entries using List.reverseRecOn with
  | nil => rfl
  | append_singleton entries entry ih => rw [ofList_snoc, get?_insert, lastValue_snoc, ih]

theorem keys_ofList (entries : List (α × β)) : (ofList entries).keys = (entries.map Prod.fst).eraseDups := by
  have entered : (ofList entries).keys = (entries.map Prod.fst).foldl Members.enter [] := by
    induction entries using List.reverseRecOn with
    | nil => rfl
    | append_singleton entries entry ih =>
        rw [ofList_snoc, keys_insert, ih, List.map_append, List.foldl_append]
        rfl
  rw [entered, ← Members.items_ofList]
  exact (Members.items_union Members.empty _).symm

end Listed

theorem same_equivalence [BEq β] (values : Equivalence fun v w : β => (v == w) = true) :
    Equivalence fun t u : Table α β => (t == u) = true where
  refl t := (same_iff t t).2 fun _ => (rel_equivalence values).refl _
  symm same := (same_iff _ _).2 fun key => (rel_equivalence values).symm ((same_iff _ _).1 same key)
  trans first second := (same_iff _ _).2 fun key =>
    (rel_equivalence values).trans ((same_iff _ _).1 first key) ((same_iff _ _).1 second key)

end Table

theorem collections_extensional {α : Type u} {β : Type v} [DecidableEq α] [BEq β] :
    (∀ entries : List (α × β),
      (Table.ofList entries).keys.Nodup ∧ (Table.ofList entries).keys = (entries.map Prod.fst).eraseDups ∧
      ∀ key, (Table.ofList entries).get? key = Table.lastValue entries key) ∧
    (∀ values : List α, (Members.ofList values).items.Nodup ∧ (Members.ofList values).items = values.eraseDups) ∧
    (∀ t u : Table α β, (t == u) = true ↔ ∀ key, Option.Rel (fun v w => (v == w) = true) (t.get? key) (u.get? key)) ∧
    (∀ s t : Members α, (s == t) = true ↔ ∀ a, a ∈ s.items ↔ a ∈ t.items) ∧
    ((Equivalence fun v w : β => (v == w) = true) → Equivalence fun t u : Table α β => (t == u) = true) ∧
    (Equivalence fun s t : Members α => (s == t) = true) ∧
    ∀ xs ys : List β, (xs == ys) = true ↔ List.Forall₂ (fun x y => (x == y) = true) xs ys := by
  refine ⟨?_, ?_, Table.same_iff, Members.same_iff, Table.same_equivalence, Members.same_equivalence, list_beq_iff⟩
  · intro entries
    exact ⟨(Table.ofList entries).distinct, Table.keys_ofList entries, Table.get?_ofList entries⟩
  · intro values
    exact ⟨(Members.ofList values).distinct, Members.items_ofList values⟩

-- Different orders, and a key given twice.
theorem collections_extensional_nested :
    let entries := [("a", Members.ofList ["x"]), ("b", Members.ofList ["p", "q", "p"]), ("a", Members.ofList ["r", "s"])]
    let others := [("b", Members.ofList ["q", "p"]), ("a", Members.ofList ["s", "r"])]
    (Equivalence fun s t : Members String => (s == t) = true) ∧
    (Equivalence fun t u : Table String (Members String) => (t == u) = true) ∧
    (Table.ofList entries).keys = ["a", "b"] ∧ (Table.ofList entries == Table.ofList others) = true ∧
    (Table.ofList others == Table.ofList entries) = true ∧
    ∀ key, Option.Rel (fun s t => (s == t) = true) ((Table.ofList others).get? key) ((Table.ofList entries).get? key) := by
  intro entries others
  obtain ⟨listed, -, looked, -, equivalence, -, -⟩ := collections_extensional (α := String) (β := Members String)
  have sets : Equivalence fun s t : Members String => (s == t) = true := Members.same_equivalence
  have same : (Table.ofList entries == Table.ofList others) = true := by decide
  have turned := (equivalence sets).symm same
  exact ⟨sets, equivalence sets, (listed entries).2.1.trans (by decide), same, turned, (looked _ _).1 turned⟩

end RegionWiring
