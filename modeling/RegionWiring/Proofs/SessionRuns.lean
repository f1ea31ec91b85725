import RegionWiring.Proofs.OverlayHistory
import RegionWiring.Session.Run

namespace RegionWiring
namespace Step

def change? : Step → Option Change
  | .applyOverlay id update => some (.apply id update)
  | .removeOverlay id => some (.remove id)
  | .deleteOverlay id => some (.remove id)
  | _ => none

def reopens : Step → Bool
  | .reopen => true
  | _ => false

def mutates : Step → Bool
  | .addLocation _ _ => true
  | .replaceLocation _ _ => true
  | .removeLocation _ => true
  | _ => false

def relocate (t : LocationTable) : Step → LocationTable
  | .addLocation key feature => (t.add key feature).1
  | .replaceLocation key features => (t.replace key features).1
  | .removeLocation key => (t.remove key).1
  | _ => t

-- Replaces the hook of this name, or lets it go.
def displaces (name : String) : Step → Bool
  | .begin hook _ => hook == name
  | .finish hook => hook == name
  | _ => false

end Step

namespace Session

def next (s : Session) (step : Step) : Session := (s.step step).value.1

def after (s : Session) (steps : List Step) : Session := steps.foldl next s

structure Within (s : Session) (step : Step) (t : Session) : Prop where
  env : t.env = s.env
  embedded : t.embedded = s.embedded
  store : t.store = step.change?.elim s.store s.store.change
  locations : t.locations = step.relocate s.locations
  retired : t.retired = s.retired
  kept : t.enforcer.kept = s.enforcer.kept ∨ t.enforcer.kept = some s.policy
  hooks : ∀ name, step.displaces name = false → t.hooks.get? name = s.hooks.get? name

theorem persist_files (s : Session) (obstacles : Obstacles) : ∃ files, (s.persist obstacles).1 = { s with files } := by
  unfold persist
  split
  · exact ⟨s.files, rfl⟩
  · split
    · exact ⟨_, rfl⟩
    · exact ⟨_, rfl⟩

theorem putFile_files (s : Session) (path text : String) : ∃ files, (s.putFile path text).1 = { s with files } := by
  unfold putFile
  split
  · exact ⟨_, rfl⟩
  · exact ⟨s.files, rfl⟩

theorem putInArea_files (s : Session) (obstacles : Obstacles) (root name text : String) :
    ∃ files, (s.putInArea obstacles root name text).1 = { s with files } := by
  unfold putInArea
  split
  · exact ⟨_, rfl⟩
  · exact ⟨_, rfl⟩

theorem beginAfter_cases (s : Session) (hook : String) (triggers : List RevisionText) :
    (s.beginAfter hook triggers).1 = s ∨ (s.beginAfter hook triggers).1 = s.begin hook := by
  unfold beginAfter
  split
  · exact .inr rfl
  · exact .inl rfl

theorem finish_cases (s : Session) (hook : String) :
    (s.finish hook).1 = s ∨ (s.finish hook).1 = { s with hooks := s.hooks.erase hook } := by
  unfold finish
  split
  · exact .inr rfl
  · exact .inl rfl

theorem within_files (s : Session) {step : Step} (files : FileTree) (still : step.change? = none)
    (fixed : step.relocate s.locations = s.locations) : Within s step { s with files } :=
  ⟨rfl, rfl, by rw [still]; rfl, fixed.symm, rfl, .inl rfl, fun _ _ => rfl⟩

theorem begin_kept (s : Session) (hook : String) :
    (s.begin hook).enforcer.kept = s.enforcer.kept ∨ (s.begin hook).enforcer.kept = some s.policy := by
  show (s.enforcer.afterBegin s.store).kept = _ ∨ (s.enforcer.afterBegin s.store).kept = _
  unfold Enforcer.afterBegin
  split
  · exact .inr rfl
  · exact .inl rfl

theorem next_within (s : Session) (step : Step) (stays : step.reopens = false) : Within s step (s.next step) := by
  cases step with
  | ask question => exact within_files s s.files rfl rfl
  | askPolicy question => exact ⟨rfl, rfl, rfl, rfl, rfl, .inr rfl, fun _ _ => rfl⟩
  | applyOverlay | removeOverlay | deleteOverlay | hold | addLocation | replaceLocation | removeLocation | switch | manage =>
      exact ⟨rfl, rfl, rfl, rfl, rfl, .inl rfl, fun _ _ => rfl⟩
  | persist obstacles =>
      obtain ⟨files, same⟩ := persist_files s obstacles
      show Within s (.persist obstacles) (s.persist obstacles).1
      rw [same]
      exact within_files s files rfl rfl
  | reopen => cases stays
  | putFile path text =>
      obtain ⟨files, same⟩ := putFile_files s path text
      show Within s (.putFile path text) (s.putFile path text).1
      rw [same]
      exact within_files s files rfl rfl
  | putInArea obstacles root name text =>
      obtain ⟨files, same⟩ := putInArea_files s obstacles root name text
      show Within s (.putInArea obstacles root name text) (s.putInArea obstacles root name text).1
      rw [same]
      exact within_files s files rfl rfl
  | begin hook triggers =>
      show Within s (.begin hook triggers) (s.beginAfter hook triggers).1
      rcases beginAfter_cases s hook triggers with same | same
      · rw [same]; exact within_files s s.files rfl rfl
      · rw [same]
        refine ⟨rfl, rfl, rfl, rfl, rfl, begin_kept s hook, ?_⟩
        intro name other
        exact (Table.get?_insert _ hook name _).trans (if_neg (beq_eq_false_iff_ne.1 other))
  | finish hook =>
      show Within s (.finish hook) (s.finish hook).1
      rcases finish_cases s hook with same | same
      · rw [same]; exact within_files s s.files rfl rfl
      · rw [same]
        refine ⟨rfl, rfl, rfl, rfl, rfl, .inl rfl, ?_⟩
        intro name other
        exact (Table.get?_erase _ hook name).trans (if_neg (beq_eq_false_iff_ne.1 other))

-- No state of the files stands in the way.
def Reopenable (s : Session) : Prop := ∃ source, Source.ofEnvironment s.env s.embedded = .ok source

theorem openStore_of_source {env : Environment} {embedded : EmbeddedDocuments} {source : Source}
    (located : Source.ofEnvironment env embedded = .ok source) (area : Option DataArea) (files : FileTree) :
    ∃ opened, openStore env embedded area files = .ok opened := by
  unfold openStore
  rw [located]
  exact ⟨_, rfl⟩

theorem source_of_openStore {env : Environment} {embedded : EmbeddedDocuments} {area : Option DataArea} {files : FileTree}
    {opened : Reported (Store × LocationTable)} (accepted : openStore env embedded area files = .ok opened) :
    ∃ source, Source.ofEnvironment env embedded = .ok source := by
  unfold openStore at accepted
  cases located : Source.ofEnvironment env embedded with
  | error fault => rw [located] at accepted; cases accepted
  | ok source => exact ⟨source, rfl⟩

theorem openStore_parts {env : Environment} {embedded : EmbeddedDocuments} {area : Option DataArea} {files : FileTree}
    {opened : Reported (Store × LocationTable)} (accepted : openStore env embedded area files = .ok opened) :
    ∃ source, opened.value = ((Store.ofSource source env files.read).value, (loadLocations area files).value) := by
  unfold openStore at accepted
  cases located : Source.ofEnvironment env embedded with
  | error fault => rw [located] at accepted; cases accepted
  | ok source =>
      rw [located] at accepted
      cases accepted
      exact ⟨source, rfl⟩

theorem start_parts {env : Environment} {embedded : EmbeddedDocuments} {area : Option DataArea} {files : FileTree}
    {opened : Reported Session} (started : start env embedded area files = .ok opened) :
    ∃ source, opened.value = ⟨env, embedded, area, files, (Store.ofSource source env files.read).value,
      Enforcer.ofEnvironment env, (loadLocations area files).value, [], .empty, .empty⟩ := by
  unfold start at started
  cases accepted : openStore env embedded area files with
  | error fault => rw [accepted] at started; cases started
  | ok store =>
      rw [accepted] at started
      cases started
      obtain ⟨source, parts⟩ := openStore_parts accepted
      refine ⟨source, ?_⟩
      show (⟨env, embedded, area, files, store.value.1, Enforcer.ofEnvironment env, store.value.2, [], .empty, .empty⟩ : Session) = _
      rw [parts]

theorem next_reopen_parts {s : Session} (able : s.Reopenable) : ∃ source, s.next .reopen =
    { s with
      store := (Store.ofSource source s.env s.files.read).value
      locations := (loadLocations s.area s.files).value
      enforcer := Enforcer.ofEnvironment s.env
      retired := s.retired ++ [s.locations] } := by
  obtain ⟨_, located⟩ := able
  obtain ⟨opened, accepted⟩ := openStore_of_source located s.area s.files
  obtain ⟨source, parts⟩ := openStore_parts accepted
  have reopened : s.next .reopen = { s with
      store := opened.value.1, locations := opened.value.2, enforcer := Enforcer.ofEnvironment s.env,
      retired := s.retired ++ [s.locations] } := by
    show s.reopen.value.1 = _
    unfold reopen
    rw [accepted]
    rfl
  refine ⟨source, ?_⟩
  rw [reopened, parts]

theorem next_reopen {s : Session} (able : s.Reopenable) : ∃ store locations, s.next .reopen =
    { s with store, locations, enforcer := Enforcer.ofEnvironment s.env, retired := s.retired ++ [s.locations] } := by
  obtain ⟨source, parts⟩ := next_reopen_parts able
  exact ⟨_, _, parts⟩

theorem next_cases {s : Session} (able : s.Reopenable) (step : Step) :
    (step.reopens = false ∧ Within s step (s.next step)) ∨
    (step = .reopen ∧ ∃ store locations, s.next step =
      { s with store, locations, enforcer := Enforcer.ofEnvironment s.env, retired := s.retired ++ [s.locations] }) := by
  cases stays : step.reopens with
  | false => exact .inl ⟨rfl, next_within s step stays⟩
  | true =>
      have reopened : step = .reopen := by cases step <;> first | rfl | cases stays
      subst reopened
      exact .inr ⟨rfl, next_reopen able⟩

theorem next_reopenable {s : Session} (able : s.Reopenable) (step : Step) : (s.next step).Reopenable := by
  rcases next_cases able step with ⟨_, moved⟩ | ⟨_, store, locations, same⟩
  · unfold Reopenable
    rw [moved.env, moved.embedded]
    exact able
  · rw [same]
    exact able

theorem after_invariant {P : Session → Prop} (keeps : ∀ {s : Session} (step : Step), P s → P (s.next step)) {s : Session}
    (holds : P s) (steps : List Step) : P (s.after steps) := by
  induction steps generalizing s with
  | nil => exact holds
  | cons step rest ih => exact ih (keeps step holds)

theorem after_reopenable {s : Session} (able : s.Reopenable) (steps : List Step) : (s.after steps).Reopenable :=
  after_invariant (P := Reopenable) (fun step able => next_reopenable able step) able steps

theorem start_facts {env : Environment} {embedded : EmbeddedDocuments} {area : Option DataArea} {files : FileTree}
    {opened : Reported Session} (started : start env embedded area files = .ok opened) :
    opened.value.enforcer.kept = none ∧ opened.value.Reopenable := by
  unfold start at started
  cases accepted : openStore env embedded area files with
  | error fault => rw [accepted] at started; cases started
  | ok store =>
      rw [accepted] at started
      cases started
      exact ⟨rfl, source_of_openStore accepted⟩

theorem after_append (s : Session) (first second : List Step) : s.after (first ++ second) = (s.after first).after second :=
  List.foldl_append

def Rebuilt (s : Session) : Prop := Store.Opened s.store.base s.store.defaultRegions s.store.joinedRegions s.store

theorem start_rebuilt {env : Environment} {embedded : EmbeddedDocuments} {area : Option DataArea} {files : FileTree}
    {opened : Reported Session} (started : start env embedded area files = .ok opened) : opened.value.Rebuilt := by
  obtain ⟨source, parts⟩ := start_parts started
  rw [parts]
  exact ⟨rfl, rfl, rfl, rfl⟩

theorem next_rebuilt {s : Session} (able : s.Reopenable) (rebuilt : s.Rebuilt) (step : Step) : (s.next step).Rebuilt := by
  rcases next_cases able step with ⟨_, moved⟩ | ⟨rfl, _⟩
  · unfold Rebuilt
    rw [moved.store]
    cases step.change? with
    | none => exact rebuilt
    | some c =>
        have after := Store.change_opened rebuilt c
        exact ⟨rfl, rfl, rfl, after.kept.symm ▸ after.tables⟩
  · obtain ⟨source, parts⟩ := next_reopen_parts able
    rw [parts]
    exact ⟨rfl, rfl, rfl, rfl⟩

theorem after_rebuilt {s : Session} (able : s.Reopenable) (rebuilt : s.Rebuilt) (steps : List Step) : (s.after steps).Rebuilt := by
  have keeps {s : Session} (step : Step) (both : s.Reopenable ∧ s.Rebuilt) : (s.next step).Reopenable ∧ (s.next step).Rebuilt :=
    ⟨next_reopenable both.1 step, next_rebuilt both.1 both.2 step⟩
  exact (after_invariant (P := fun s => s.Reopenable ∧ s.Rebuilt) keeps ⟨able, rebuilt⟩ steps).2

end Session
end RegionWiring
