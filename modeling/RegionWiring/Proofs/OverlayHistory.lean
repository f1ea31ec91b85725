import Mathlib.Data.List.Induction
import RegionWiring.Proofs.Merging
import RegionWiring.Store.Basic

namespace RegionWiring

inductive Change where
  | apply (id : String) (update : Update)
  | remove (id : String)

namespace Change

def id : Change → String
  | .apply id _ => id
  | .remove id => id

def update? : Change → Option Update
  | .apply _ update => some update
  | .remove _ => none

def isRemovalOf (id : String) : Change → Bool
  | .apply _ _ => false
  | .remove other => other == id

end Change

abbrev History := List Change

namespace History

def latest? (history : History) (id : String) : Option Update :=
  ((history.filter fun c => c.id = id).getLast?).bind Change.update?

def active (history : History) (id : String) : Bool := (history.latest? id).isSome

-- The last update of an overlay that no later removal takes away.
def activated (earlier : History) : Change → History → Option (String × Update)
  | .remove _, _ => none
  | .apply id update, later =>
      if earlier.active id || later.any (Change.isRemovalOf id) then none
      else some (id, (later.latest? id).getD update)

def survivorsFrom (earlier : History) : History → List (String × Update)
  | [] => []
  | c :: later => (activated earlier c later).toList ++ survivorsFrom (earlier ++ [c]) later

def survivors (history : History) : List (String × Update) := survivorsFrom [] history

def reapplied (overlay : String × Update) : Change := .apply overlay.1 overlay.2

def applications (history : History) : Nat := (history.filter fun c => c.update?.isSome).length

theorem latest?_snoc (history : History) (c : Change) (id : String) :
    (history ++ [c]).latest? id = if c.id = id then c.update? else history.latest? id := by
  by_cases h : c.id = id <;> simp [latest?, List.filter_append, h]

def revise : Change → String × Update → Option (String × Update)
  | .apply id update, overlay => some (if overlay.1 = id then (id, update) else overlay)
  | .remove id, overlay => if overlay.1 = id then none else some overlay

theorem revise_other {d : Change} {overlay : String × Update} (other : overlay.1 ≠ d.id) : revise d overlay = some overlay := by
  cases d with
  | apply id update => exact congrArg some (if_neg other)
  | remove id => exact if_neg other

theorem filterMap_revise_other {d : Change} {overlays : List (String × Update)} (absent : d.id ∉ overlays.map Prod.fst) :
    overlays.filterMap (revise d) = overlays := by
  induction overlays with
  | nil => rfl
  | cons overlay rest ih =>
      simp only [List.map_cons, List.mem_cons, not_or] at absent
      rw [List.filterMap_cons_some (revise_other (Ne.symm absent.1)), ih absent.2]

theorem activated_snoc (earlier : History) (c : Change) (later : History) (d : Change) :
    activated earlier c (later ++ [d]) = (activated earlier c later).bind (revise d) := by
  cases c with
  | remove id => rfl
  | apply id update =>
      simp only [activated, latest?_snoc, List.any_append, List.any_cons, List.any_nil, Bool.or_false]
      by_cases gone : (earlier.active id || later.any (Change.isRemovalOf id)) = true
      · have still : (earlier.active id || (later.any (Change.isRemovalOf id) || d.isRemovalOf id)) = true := by
          rw [← Bool.or_assoc, gone, Bool.true_or]
        simp [gone, still]
      · have stays : (earlier.active id || later.any (Change.isRemovalOf id)) = false := Bool.eq_false_iff.2 gone
        rw [← Bool.or_assoc, stays, Bool.false_or]
        cases d with
        | apply other given =>
            by_cases same : other = id
            · simp [Change.isRemovalOf, Change.id, Change.update?, revise, same]
            · simp [Change.isRemovalOf, Change.id, revise, same, Ne.symm same]
        | remove other =>
            by_cases same : other = id
            · simp [Change.isRemovalOf, revise, same]
            · simp [Change.isRemovalOf, Change.id, revise, same, Ne.symm same]

theorem survivorsFrom_snoc (earlier later : History) (d : Change) :
    survivorsFrom earlier (later ++ [d]) =
      (survivorsFrom earlier later).filterMap (revise d) ++ (activated (earlier ++ later) d []).toList := by
  induction later generalizing earlier with
  | nil => simp [survivorsFrom]
  | cons c later ih =>
      have first : (activated earlier c (later ++ [d])).toList =
          ((activated earlier c later).toList).filterMap (revise d) := by
        rw [activated_snoc]
        cases activated earlier c later with
        | none => rfl
        | some overlay => cases h : revise d overlay <;> simp [h]
      simp only [List.cons_append, survivorsFrom, ih, first, List.filterMap_append, List.append_assoc, List.nil_append]

theorem filterMap_revise_apply (id : String) (update : Update) (overlays : List (String × Update)) :
    overlays.filterMap (revise (.apply id update)) =
      overlays.map fun overlay => if overlay.1 = id then (id, update) else overlay := by
  rw [← List.filterMap_eq_map']
  rfl

theorem filterMap_revise_remove (id : String) (overlays : List (String × Update)) :
    overlays.filterMap (revise (.remove id)) = overlays.filter fun overlay => overlay.1 ≠ id := by
  induction overlays with
  | nil => rfl
  | cons overlay rest ih => by_cases h : overlay.1 = id <;> simp [revise, h, ih]

theorem survivors_snoc (history : History) (d : Change) :
    (history ++ [d]).survivors = history.survivors.filterMap (revise d) ++ (activated history d []).toList :=
  survivorsFrom_snoc [] history d

theorem revise_apply_ids (id : String) (update : Update) (overlays : List (String × Update)) :
    (overlays.filterMap (revise (.apply id update))).map Prod.fst = overlays.map Prod.fst := by
  rw [filterMap_revise_apply, List.map_map]
  apply List.map_congr_left
  intro overlay _
  by_cases h : overlay.1 = id <;> simp [h]

theorem revise_remove_ids (id : String) (overlays : List (String × Update)) :
    (overlays.filterMap (revise (.remove id))).map Prod.fst = (overlays.map Prod.fst).filter fun other => other ≠ id := by
  rw [filterMap_revise_remove, List.filter_map]
  rfl

theorem mem_survivors_iff (history : History) (id : String) :
    id ∈ history.survivors.map Prod.fst ↔ history.active id = true := by
  induction history using List.reverseRecOn with
  | nil => simp [survivors, survivorsFrom, active, latest?]
  | append_singleton history d ih =>
      rw [survivors_snoc, List.map_append, List.mem_append, active, latest?_snoc]
      cases d with
      | apply other update =>
          rw [revise_apply_ids, ih]
          by_cases same : other = id
          · subst same
            by_cases was : active history other = true <;> simp [was, activated, Change.id, Change.update?]
          · have elsewhere : id ∉ (activated history (.apply other update) []).toList.map Prod.fst := by
              cases was : active history other <;> simp [activated, was, Ne.symm same]
            simp [elsewhere, Change.id, same, active]
      | remove other =>
          rw [revise_remove_ids, List.mem_filter, ih]
          by_cases same : other = id
          · subst same
            simp [activated, Change.id, Change.update?]
          · simp [activated, Change.id, same, Ne.symm same, active]

end History

namespace Store

def change (s : Store) : Change → Store
  | .apply id update => (s.applyOverlay id update).value
  | .remove id => (s.removeOverlay id).1

def after (s : Store) (history : History) : Store := history.foldl change s

def contributed (overlay : String × Update) : String × Contribution :=
  (overlay.1, (Contribution.ofUpdate overlay.1 overlay.2).value)

def removed (s : Store) : Change → Bool
  | .apply _ _ => false
  | .remove id => (s.removeOverlay id).2

def removals (s : Store) : History → Nat
  | [] => 0
  | c :: rest => (s.removed c).toNat + (s.change c).removals rest

theorem change_apply (s : Store) (id : String) (update : Update) :
    s.change (.apply id update) = s.republish (s.overlays.insert id (contributed (id, update)).2) := rfl

theorem change_remove_active (s : Store) (id : String) (found : s.overlays.contains id = true) :
    s.change (.remove id) = s.republish (s.overlays.erase id) := by
  simp [change, removeOverlay, found]

theorem change_remove_inactive (s : Store) (id : String) (missing : s.overlays.contains id = false) :
    s.change (.remove id) = s := by
  simp [change, removeOverlay, missing]

-- Nothing, or other overlays under the next generation.
theorem change_cases (s : Store) (c : Change) : s.change c = s ∨ ∃ overlays, s.change c = s.republish overlays := by
  cases c with
  | apply id update => exact .inr ⟨_, change_apply s id update⟩
  | remove id =>
      cases found : s.overlays.contains id with
      | true => exact .inr ⟨_, change_remove_active s id found⟩
      | false => exact .inl (change_remove_inactive s id found)

theorem change_facts (s : Store) (c : Change) :
    (s.change c).defaultRegions = s.defaultRegions ∧ (s.change c).joinedRegions = s.joinedRegions ∧
      ((s.change c).snapshot = s.snapshot ∨ s.generation < (s.change c).generation) := by
  rcases change_cases s c with same | ⟨overlays, same⟩
  · rw [same]; exact ⟨rfl, rfl, .inl rfl⟩
  · rw [same]; exact ⟨rfl, rfl, .inr (Nat.lt_succ_self _)⟩

theorem after_snoc (s : Store) (history : History) (c : Change) : s.after (history ++ [c]) = (s.after history).change c := by
  simp [after]

-- The tables are always those of all contributions.
structure Opened (base : Contribution) (defaultRegions joinedRegions : Members Region) (s : Store) : Prop where
  kept : s.base = base
  defaults : s.defaultRegions = defaultRegions
  joined : s.joinedRegions = joinedRegions
  tables : s.tables = RegionTables.ofContributions (contributions base s.overlays)

theorem change_opened {base : Contribution} {defaultRegions joinedRegions : Members Region} {s : Store}
    (valid : Opened base defaultRegions joinedRegions s) (c : Change) :
    Opened base defaultRegions joinedRegions (s.change c) := by
  rcases change_cases s c with same | ⟨overlays, same⟩
  · rw [same]; exact valid
  · rw [same]
    refine ⟨valid.kept, valid.defaults, valid.joined, ?_⟩
    rw [← valid.kept]
    rfl

theorem after_opened (base : Contribution) (defaultRegions joinedRegions : Members Region)
    (registration : Table String String) (history : History) :
    Opened base defaultRegions joinedRegions ((ofBase base defaultRegions joinedRegions registration).after history) := by
  induction history using List.reverseRecOn with
  | nil => exact ⟨rfl, rfl, rfl, rfl⟩
  | append_singleton history c ih =>
      rw [after_snoc]
      exact change_opened ih c

def Holds (s : Store) (history : History) : Prop := s.overlays.entries = history.survivors.map contributed

theorem Holds.keys {s : Store} {history : History} (told : s.Holds history) :
    s.overlays.keys = history.survivors.map Prod.fst := by
  rw [Table.keys, told, List.map_map]
  rfl

theorem Holds.mem_keys {s : Store} {history : History} (told : s.Holds history) (id : String) :
    id ∈ s.overlays.keys ↔ history.active id = true := by
  rw [told.keys, History.mem_survivors_iff]

theorem Holds.contains {s : Store} {history : History} (told : s.Holds history) (id : String) :
    s.overlays.contains id = history.active id := by
  rw [Bool.eq_iff_iff, Table.contains_iff]
  exact told.mem_keys id

theorem Holds.apply {s : Store} {history : History} (told : s.Holds history) (id : String) (update : Update) :
    (s.change (.apply id update)).Holds (history ++ [.apply id update]) := by
  unfold Holds
  rw [change_apply, History.survivors_snoc, List.map_append]
  show (s.overlays.insert id (contributed (id, update)).2).entries = _
  cases was : history.active id with
  | true =>
      rw [Table.entries_insert_present _ _ _ ((told.mem_keys id).2 was), told, History.filterMap_revise_apply]
      simp only [History.activated, was, Bool.true_or, if_true, Option.toList_none, List.map_nil, List.append_nil, List.map_map]
      apply List.map_congr_left
      intro overlay _
      by_cases h : overlay.1 = id <;> simp [contributed, h]
  | false =>
      have absent : id ∉ s.overlays.keys := by simp [told.mem_keys, was]
      rw [Table.entries_insert_absent _ _ _ absent, told, History.filterMap_revise_other (told.keys ▸ absent)]
      simp [History.activated, was, contributed, History.latest?]

theorem Holds.remove {s : Store} {history : History} (told : s.Holds history) (id : String) :
    (s.change (.remove id)).Holds (history ++ [.remove id]) := by
  have left : History.survivors (history ++ [.remove id]) = history.survivors.filterMap (History.revise (.remove id)) := by
    rw [History.survivors_snoc]
    exact List.append_nil _
  unfold Holds
  rw [left]
  cases found : s.overlays.contains id with
  | true =>
      rw [change_remove_active s id found, History.filterMap_revise_remove]
      show (s.overlays.erase id).entries = _
      rw [Table.entries_erase, told, List.filter_map]
      rfl
  | false =>
      have absent : id ∉ s.overlays.keys := by
        intro inside
        rw [(Table.contains_iff _ _).2 inside] at found
        cases found
      rw [change_remove_inactive s id found, told, History.filterMap_revise_other (told.keys ▸ absent)]

theorem after_holds (base : Contribution) (defaultRegions joinedRegions : Members Region)
    (registration : Table String String) (history : History) :
    ((ofBase base defaultRegions joinedRegions registration).after history).Holds history := by
  induction history using List.reverseRecOn with
  | nil => rfl
  | append_singleton history c ih =>
      rw [after_snoc]
      cases c with
      | apply id update => exact ih.apply id update
      | remove id => exact ih.remove id

def sources (base : Contribution) (history : History) : List Contribution :=
  base :: history.survivors.map fun overlay => (contributed overlay).2

theorem tables_after (base : Contribution) (defaultRegions joinedRegions : Members Region)
    (registration : Table String String) (history : History) :
    ((ofBase base defaultRegions joinedRegions registration).after history).tables =
      RegionTables.ofContributions (sources base history) := by
  rw [(after_opened base defaultRegions joinedRegions registration history).tables, contributions, Table.values,
    after_holds base defaultRegions joinedRegions registration history, List.map_map]
  rfl

theorem survivors_distinct (history : History) : (history.survivors.map Prod.fst).Nodup := by
  have told := after_holds .empty .empty .empty .empty history
  rw [← told.keys]
  exact Table.distinct _

theorem survivors_reapplied (overlays : List (String × Update)) (distinct : (overlays.map Prod.fst).Nodup) :
    History.survivors (overlays.map History.reapplied) = overlays := by
  induction overlays using List.reverseRecOn with
  | nil => rfl
  | append_singleton overlays last ih =>
      rw [List.map_append, List.nodup_append] at distinct
      obtain ⟨before, _, apart⟩ := distinct
      have survived := ih before
      have absent : last.1 ∉ overlays.map Prod.fst := fun inside => apart _ inside last.1 (by simp) rfl
      have inactive : History.active (overlays.map History.reapplied) last.1 = false := by
        rw [Bool.eq_false_iff, ne_eq, ← History.mem_survivors_iff, survived]
        exact absent
      rw [List.map_append, List.map_singleton, History.survivors_snoc, survived, History.filterMap_revise_other absent]
      simp [History.reapplied, History.activated, inactive, History.latest?]

theorem survivors_apply_remove (history : History) (id : String) (update : Update) (inactive : history.active id = false) :
    History.survivors (history ++ [.apply id update, .remove id]) = history.survivors := by
  have absent : id ∉ history.survivors.map Prod.fst := by simp [History.mem_survivors_iff, inactive]
  have applied : History.survivors (history ++ [.apply id update]) = history.survivors ++ [(id, update)] := by
    rw [History.survivors_snoc, History.filterMap_revise_other absent]
    simp [History.activated, inactive, History.latest?]
  have split : history ++ [.apply id update, .remove id] = (history ++ [.apply id update]) ++ [.remove id] := by simp
  rw [split, History.survivors_snoc, applied, List.filterMap_append, History.filterMap_revise_other absent]
  simp [History.activated, History.revise]

theorem removeOverlay_flag (s : Store) (id : String) : (s.removeOverlay id).2 = s.overlays.contains id := by
  unfold removeOverlay
  split
  · rename_i found; exact found.symm
  · rename_i missing; exact (Bool.eq_false_iff.2 missing).symm

theorem generation_change (s : Store) (c : Change) :
    (s.change c).generation = s.generation + c.update?.isSome.toNat + (s.removed c).toNat := by
  cases c with
  | apply id update => rfl
  | remove id =>
      rw [removed, removeOverlay_flag]
      cases found : s.overlays.contains id with
      | true => rw [change_remove_active s id found]; rfl
      | false => rw [change_remove_inactive s id found]; rfl

theorem generation_after (s : Store) (history : History) :
    (s.after history).generation = s.generation + history.applications + s.removals history := by
  induction history generalizing s with
  | nil => rfl
  | cons c rest ih =>
      have counted : History.applications (c :: rest) = c.update?.isSome.toNat + History.applications rest := by
        cases given : c.update?.isSome <;> simp [History.applications, given, Nat.add_comm]
      show ((s.change c).after rest).generation = _
      rw [ih, generation_change, counted, removals]
      omega

-- The active overlays can be read off the history without running it.
theorem overlay_history (base : Contribution) (defaultRegions joinedRegions : Members Region)
    (registration : Table String String) (history : History) :
    let fresh := ofBase base defaultRegions joinedRegions registration
    let s := fresh.after history
    s.overlayIds = history.survivors.map Prod.fst ∧
    s.overlays.entries = history.survivors.map contributed ∧
    s.tables = (fresh.after (history.survivors.map History.reapplied)).tables ∧
    (∀ id update, history.active id = false →
      (fresh.after (history ++ [.apply id update, .remove id])).tables = s.tables) ∧
    (∀ id, (s.removeOverlay id).2 = history.active id ∧ (history.active id = false → (s.removeOverlay id).1 = s)) ∧
    s.generation = 1 + history.applications + fresh.removals history := by
  intro fresh s
  have told : s.Holds history := after_holds base defaultRegions joinedRegions registration history
  refine ⟨told.keys, told, ?_, ?_, ?_, generation_after fresh history⟩
  · show (fresh.after history).tables = _
    rw [tables_after, tables_after, sources, sources, survivors_reapplied _ (survivors_distinct history)]
  · intro id update inactive
    show _ = (fresh.after history).tables
    rw [tables_after, tables_after, sources, sources, survivors_apply_remove history id update inactive]
  · intro id
    refine ⟨(removeOverlay_flag s id).trans (told.contains id), ?_⟩
    intro inactive
    exact change_remove_inactive s id ((told.contains id).trans inactive)

end Store
end RegionWiring
