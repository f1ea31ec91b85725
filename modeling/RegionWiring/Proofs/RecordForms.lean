import Mathlib.Data.List.Forall2
import Mathlib.Data.List.Perm.Lattice
import RegionWiring.Json.Form

namespace RegionWiring
namespace JsonForm

def present (names : List String) (values : List (Option Json)) : List (String × Json) :=
  (names.zip values).filterMap fun named => named.2.map (named.1, ·)

-- A record with these fields in any order, or the list of all values.
def Gives (names : List String) (values : List (Option Json)) : Json → Prop
  | .record fields => (fields.filter fun field => field.1 ∈ names).Perm (present names values)
  | .list items => values = items.map some
  | _ => False

section Fields

variable {fields : List (String × Json)} {names : List String} {values : List (Option Json)}

theorem present_cons (name : String) (value : Option Json) :
    present (name :: names) (value :: values) = (value.map (name, ·)).toList ++ present names values := by
  cases value <;> rfl

theorem name_of_present {field : String × Json} (inside : field ∈ present names values) : field.1 ∈ names := by
  obtain ⟨named, paired, chosen⟩ := List.mem_filterMap.1 inside
  obtain ⟨value, _, rfl⟩ := Option.map_eq_some_iff.1 chosen
  exact (List.of_mem_zip paired).1

def Holds (fields : List (String × Json)) (name : String) (value : Option Json) : Prop :=
  fields.filter (·.1 == name) = (value.map (name, ·)).toList

def fieldValue (fields : List (String × Json)) (name : String) : Option (Option Json) :=
  match fields.filter (·.1 == name) with
  | [] => some none
  | [field] => some (some field.2)
  | _ => none

theorem fieldValue_eq_some_iff (name : String) (value : Option Json) : fieldValue fields name = some value ↔ Holds fields name value := by
  unfold fieldValue Holds
  split
  · rename_i absent
    rw [absent]
    cases value <;> simp
  · rename_i field found
    have named : field.1 = name := by
      have inside : field ∈ fields.filter (·.1 == name) := by rw [found]; exact List.mem_singleton_self field
      exact beq_iff_eq.1 (List.mem_filter.1 inside).2
    rw [found]
    cases value with
    | none => simp
    | some value => simp [Prod.ext_iff, named]
  · rename_i several none
    refine iff_of_false (by simp) fun same => ?_
    cases value with
    | none => exact several same
    | some value => exact none _ same

theorem fieldValues_record_iff : fieldValues names (.record fields) = some values ↔ List.Forall₂ (Holds fields) names values := by
  show names.mapM (fieldValue fields) = some values ↔ _
  induction names generalizing values with
  | nil => cases values <;> simp
  | cons name names ih =>
      cases values with
      | nil => simp [Option.bind_eq_some_iff]
      | cons value values =>
          rw [List.forall₂_cons, ← fieldValue_eq_some_iff, ← ih]
          simp [List.mapM_cons, Option.bind_eq_some_iff]

theorem filter_present_first {name : String} (fresh : name ∉ names) (value : Option Json) :
    (present (name :: names) (value :: values)).filter (·.1 == name) = (value.map (name, ·)).toList := by
  have others : (present names values).filter (·.1 == name) = [] := by
    rw [List.filter_eq_nil_iff]
    intro field inside same
    exact fresh (beq_iff_eq.1 same ▸ name_of_present inside)
  rw [present_cons, List.filter_append, others, List.append_nil]
  cases value <;> simp

theorem filter_present_rest {name : String} (fresh : name ∉ names) (value : Option Json) :
    (present (name :: names) (value :: values)).filter (fun field => field.1 ∈ names) = present names values := by
  have others : (present names values).filter (fun field => field.1 ∈ names) = present names values := by
    rw [List.filter_eq_self]
    intro field inside
    exact decide_eq_true (name_of_present inside)
  rw [present_cons, List.filter_append, others]
  cases value <;> simp [fresh]

theorem filter_names_first (name : String) (names : List String) :
    (fields.filter fun field => field.1 ∈ name :: names).filter (·.1 == name) = fields.filter (·.1 == name) := by
  rw [List.filter_filter]
  apply List.filter_congr
  intro field _
  by_cases same : field.1 = name <;> simp [same]

theorem filter_names_rest (name : String) (names : List String) :
    (fields.filter fun field => field.1 ∈ name :: names).filter (fun field => field.1 ∈ names) =
      fields.filter fun field => field.1 ∈ names := by
  rw [List.filter_filter]
  apply List.filter_congr
  intro field _
  by_cases inside : field.1 ∈ names <;> simp [inside]

-- The induction splits off the first name on both sides.
theorem holds_iff_perm (distinct : names.Nodup) (sized : names.length = values.length) :
    List.Forall₂ (Holds fields) names values ↔ (fields.filter fun field => field.1 ∈ names).Perm (present names values) := by
  induction names generalizing values with
  | nil =>
      cases values with
      | nil => simp [present]
      | cons value values => cases sized
  | cons name names ih =>
      cases values with
      | nil => cases sized
      | cons value values =>
          obtain ⟨fresh, others⟩ := List.nodup_cons.1 distinct
          rw [List.forall₂_cons, ih others (Nat.succ.inj sized)]
          constructor
          · rintro ⟨first, rest⟩
            have parted := List.filter_append_perm (fun field => field.1 == name) (fields.filter fun field => field.1 ∈ name :: names)
            have behind : (fields.filter fun field => field.1 ∈ name :: names).filter (fun field => !(field.1 == name)) =
                fields.filter fun field => field.1 ∈ names := by
              rw [List.filter_filter]
              apply List.filter_congr
              intro field _
              by_cases same : field.1 = name
              · simp [same, fresh]
              · simp [same]
            rw [filter_names_first, behind, first] at parted
            rw [present_cons]
            exact parted.symm.trans (rest.append_left _)
          · intro whole
            have first := whole.filter (fun field => field.1 == name)
            have rest := whole.filter (fun field => decide (field.1 ∈ names))
            rw [filter_names_first, filter_present_first fresh] at first
            rw [filter_names_rest, filter_present_rest fresh] at rest
            refine ⟨?_, rest⟩
            unfold Holds
            cases value with
            | none => exact first.eq_nil
            | some value => exact first.eq_singleton

theorem fieldValues_eq_some_iff (distinct : names.Nodup) {j : Json} :
    fieldValues names j = some values ↔ names.length = values.length ∧ Gives names values j := by
  cases j with
  | record fields =>
      constructor
      · intro read
        have held := fieldValues_record_iff.1 read
        exact ⟨held.length_eq, (holds_iff_perm distinct held.length_eq).1 held⟩
      · rintro ⟨sized, given⟩
        exact fieldValues_record_iff.2 ((holds_iff_perm distinct sized).2 given)
  | list items =>
      show (if items.length = names.length then some (items.map some) else none) = some values ↔ _ ∧ values = items.map some
      split
      · rename_i sized
        constructor
        · rintro ⟨⟩
          exact ⟨by simp [sized], rfl⟩
        · rintro ⟨_, rfl⟩
          rfl
      · rename_i other
        refine iff_of_false (by simp) ?_
        rintro ⟨sized, rfl⟩
        exact other (by simpa using sized.symm)
  | null | bool | integer | text | foreign => exact iff_of_false (by simp [fieldValues]) fun both => both.2

theorem gives_record (fields : List (String × Json)) :
    Gives (fields.map Prod.fst) (fields.map fun field => some field.2) (.record fields) := by
  have all : (fields.filter fun field => field.1 ∈ fields.map Prod.fst) = fields := by
    rw [List.filter_eq_self]
    intro field inside
    exact decide_eq_true (List.mem_map_of_mem inside)
  have whole : present (fields.map Prod.fst) (fields.map fun field => some field.2) = fields := by
    clear all
    induction fields with
    | nil => rfl
    | cons field fields ih => rw [List.map_cons, List.map_cons, present_cons, ih]; rfl
  show List.Perm _ _
  rw [all, whole]

end Fields

end JsonForm
end RegionWiring
