import RegionWiring.Proofs.ClearWriting
import RegionWiring.Proofs.SessionRuns

namespace RegionWiring

-- Writes files in somebody else's place.
def Step.intrudes : Step → Bool
  | .putFile _ _ => true
  | .putInArea _ _ _ _ => true
  | _ => false

namespace Session

def saves (s : Session) : Step → Bool
  | .persist obstacles => (s.persist obstacles).2.toBool
  | _ => false

-- The files alone decide whether a persist succeeds.
def ClearAt (s : Session) (step : Step) : Prop :=
  ∀ obstacles area, step = .persist obstacles → s.area = some area → area.Clear obstacles s.files

def Clear (s : Session) : List Step → Prop
  | [] => True
  | step :: rest => s.ClearAt step ∧ Clear (s.next step) rest

-- What the next opening would load.
structure Keeps (area : DataArea) (kept : LocationTable) (s : Session) : Prop where
  present : s.area = some area
  loaded : area.keptLocations s.files = kept

theorem loadLocations_value (area : DataArea) (files : FileTree) :
    (loadLocations (some area) files).value = area.keptLocations files := by
  rw [← DataArea.loadLocations_eq]
  cases loaded : area.loadLocations files with
  | error fault => simp only [loadLocations, loaded]; rfl
  | ok table => simp only [loadLocations, loaded]; rfl

variable {area : DataArea} {kept : LocationTable} {s : Session}

theorem persist_configured (configured : s.area = some area) (obstacles : Obstacles) :
    s.persist obstacles = ({ s with files := (area.persistLocations obstacles s.files s.locations).1 },
      ((area.persistLocations obstacles s.files s.locations).2.mapError StepFault.fault).map fun _ => .done) := by
  unfold persist
  rw [configured]
  dsimp only
  rcases area.persistLocations obstacles s.files s.locations with ⟨files, fault | _⟩ <;> rfl

theorem persist_keeps (keeps : Keeps area kept s) {obstacles : Obstacles}
    (steady : area.Secluded s.files ∨ s.ClearAt (.persist obstacles)) :
    Keeps area (if s.saves (.persist obstacles) then s.locations else kept) (s.next (.persist obstacles)) := by
  show Keeps area (if (s.persist obstacles).2.toBool then s.locations else kept) (s.persist obstacles).1
  rw [persist_configured keeps.present]
  rcases written : area.persistLocations obstacles s.files s.locations with ⟨files, fault | _⟩
  · have unmoved : area.keptLocations files = area.keptLocations s.files := by
      rcases steady with secluded | clear
      · exact DataArea.keptLocations_failed written secluded
      · exact DataArea.keptLocations_clear (clear obstacles area rfl keeps.present) written
    exact ⟨keeps.present, unmoved.trans keeps.loaded⟩
  · exact ⟨keeps.present, DataArea.persistLocations_done written⟩

theorem persist_secluded (present : s.area = some area) (secluded : area.Secluded s.files) (obstacles : Obstacles) :
    area.Secluded (s.next (.persist obstacles)).files := by
  show area.Secluded (s.persist obstacles).1.files
  rw [persist_configured present]
  rcases written : area.persistLocations obstacles s.files s.locations with ⟨files, fault | _⟩
  · exact DataArea.secluded_failed written secluded
  · exact DataArea.secluded_of_text (DataArea.write_done written)

-- In a run on its own, only a persist changes files.
theorem next_files_cases (s : Session) {step : Step} (alone : step.intrudes = false) :
    (∃ obstacles, step = .persist obstacles) ∨
      ((s.next step).area = s.area ∧ (s.next step).files = s.files ∧ s.saves step = false) := by
  cases step with
  | persist obstacles => exact .inl ⟨obstacles, rfl⟩
  | putFile | putInArea => cases alone
  | reopen =>
      refine .inr ?_
      show s.reopen.value.1.area = s.area ∧ s.reopen.value.1.files = s.files ∧ _
      unfold reopen
      split
      · exact ⟨rfl, rfl, rfl⟩
      · exact ⟨rfl, rfl, rfl⟩
  | begin hook triggers =>
      refine .inr ?_
      show (s.beginAfter hook triggers).1.area = s.area ∧ (s.beginAfter hook triggers).1.files = s.files ∧ _
      rcases beginAfter_cases s hook triggers with same | same <;> rw [same] <;> exact ⟨rfl, rfl, rfl⟩
  | finish hook =>
      refine .inr ?_
      show (s.finish hook).1.area = s.area ∧ (s.finish hook).1.files = s.files ∧ _
      rcases finish_cases s hook with same | same <;> rw [same] <;> exact ⟨rfl, rfl, rfl⟩
  | ask | askPolicy | applyOverlay | removeOverlay | deleteOverlay | hold | addLocation | replaceLocation | removeLocation
  | switch | manage => exact .inr ⟨rfl, rfl, rfl⟩

theorem next_keeps (keeps : Keeps area kept s) {step : Step} (alone : step.intrudes = false)
    (steady : area.Secluded s.files ∨ s.ClearAt step) : Keeps area (if s.saves step then s.locations else kept) (s.next step) := by
  rcases next_files_cases s alone with ⟨obstacles, rfl⟩ | ⟨sameArea, sameFiles, unsaved⟩
  · exact persist_keeps keeps steady
  · rw [unsaved]
    exact ⟨sameArea.trans keeps.present, by rw [sameFiles]; exact keeps.loaded⟩

theorem next_steady (present : s.area = some area) {step : Step} (alone : step.intrudes = false)
    {rest : List Step} (steady : area.Secluded s.files ∨ s.Clear (step :: rest)) :
    area.Secluded (s.next step).files ∨ (s.next step).Clear rest := by
  rcases steady with secluded | clear
  · rcases next_files_cases s alone with ⟨obstacles, rfl⟩ | ⟨_, sameFiles, _⟩
    · exact .inl (persist_secluded present secluded obstacles)
    · exact .inl (by rwa [sameFiles])
  · exact .inr clear.2

theorem start_keeps {env : Environment} {embedded : EmbeddedDocuments} {files : FileTree} {opened : Reported Session}
    (started : start env embedded (some area) files = .ok opened) :
    Keeps area opened.value.locations opened.value ∧ opened.value.files = files := by
  obtain ⟨source, parts⟩ := start_parts started
  rw [parts]
  exact ⟨⟨rfl, (loadLocations_value area files).symm⟩, rfl⟩

def baseless : Environment := fun key => if key = Key.location then some "classloader://none" else none

-- Full in the middle of the document; the staged file stays.
def diskFull : Obstacles :=
  ⟨fun _ => none, none, some (.other "No space left on device (os error 28)"), none, none, true, .text "\x7b", fun _ => ⟨0, by decide⟩⟩

end Session
end RegionWiring
