import RegionWiring.Proofs.GrowingTrees
import RegionWiring.Proofs.LocationDocument
import RegionWiring.Store.DataArea

namespace RegionWiring

namespace FileTree

theorem not_mem_stagedName (obstacles : Obstacles) {b : UInt8} (front : b ∉ ([46, 116, 109, 112] : FileName))
    (letters : ∀ i, b ≠ Obstacles.letter i) : b ∉ obstacles.stagedName := by
  rw [Obstacles.stagedName, List.mem_append, List.mem_ofFn]
  rintro (inside | ⟨i, same⟩)
  · exact front inside
  · exact letters _ same.symm

theorem stagedName_isName (obstacles : Obstacles) : Path.IsName ⟨obstacles.stagedName⟩ where
  filled := by simp [Obstacles.stagedName]
  single := not_mem_stagedName obstacles (by decide) (by decide)
  plain := by simp [Obstacles.stagedName, FileName.isPlain, FileName.here, FileName.up]
  short := by simp [Obstacles.stagedName, FileName.tooLong]

section Staging

variable {tree made : FileTree} {obstacles : Obstacles} {directory : Path} {staged : Place}

theorem stage_eq_ok (accepted : tree.stage obstacles directory = .ok (made, staged)) :
    ∃ place, tree.walk (tree.start directory) directory.steps = .ok place ∧ tree.isDirectoryAt place = true ∧
      tree.at? (place ++ [obstacles.stagedName]) = none ∧ staged = place ++ [obstacles.stagedName] ∧
      made = tree.put (place ++ [obstacles.stagedName]) (.file (.text "")) := by
  unfold stage at accepted
  split at accepted
  · cases accepted
  have isName := stagedName_isName obstacles
  obtain ⟨place, name, parent, absent, same, beside⟩ := createFile_eq_ok accepted
  obtain ⟨_, walked, there, last⟩ := parentOf_eq_ok parent
  rw [Path.steps_join isName, List.getLast?_concat] at last
  rw [start_join isName, Path.steps_join isName, List.dropLast_concat] at walked
  cases last
  exact ⟨place, walked, there, absent, beside, same⟩

theorem giveUp_littered (accepted : tree.stage obstacles directory = .ok (made, staged)) :
    Littered directory obstacles.stagedName tree (made.giveUp obstacles staged) := by
  obtain ⟨place, walked, there, absent, rfl, rfl⟩ := stage_eq_ok accepted
  refine ⟨place, walked, there, absent, ?_⟩
  unfold giveUp
  split
  · refine ⟨⟨rfl, fun other apart => ?_⟩, isDirectoryAt_put_file _ _ _ _⟩
    rw [at?_put, if_neg apart.symm, at?_put, if_neg apart.symm]
  · refine ⟨⟨rfl, fun other apart => ?_⟩, ?_⟩
    · rw [at?_remove, if_neg apart.symm, at?_put, if_neg apart.symm]
    · rw [isDirectoryAt, at?_remove, if_pos rfl]
      rfl

-- Moved with the whole text in it, or given up.
theorem settle_cases (accepted : tree.stage obstacles directory = .ok (made, staged)) (p : Path) (text : String) :
    (∃ fault, made.settle obstacles staged p text = (made.giveUp obstacles staged, .error fault)) ∨
    ∃ published, made.settle obstacles staged p text = (published, .ok ()) ∧ published.read p = .ok text ∧
      (tree.Rooted → published.Rooted) := by
  unfold settle
  generalize obstacles.filling.or (obstacles.flushing.or obstacles.moving) = refusal
  cases refusal with
  | some fault => exact .inl ⟨fault, rfl⟩
  | none =>
      dsimp only [Option.elim_none]
      cases moved : (made.put staged (.file (.text text))).publish staged p (.text text) with
      | error fault => exact .inl ⟨fault, rfl⟩
      | ok published =>
          obtain ⟨place, _, there, absent, rfl, rfl⟩ := stage_eq_ok accepted
          have free : tree.isDirectoryAt (place ++ [obstacles.stagedName]) = false := by simp [isDirectoryAt, absent]
          refine .inr ⟨published, rfl, publish_read (isDirectoryAt_put_file _ _ _ _) moved, fun rooted => ?_⟩
          have once := rooted.put there free (.file (.text ""))
          have twice := once.put (isDirectoryAt_put free _ there) (isDirectoryAt_put_file _ _ _ _) (.file (.text text))
          exact twice.publish (isDirectoryAt_put_file _ _ _ _) moved

end Staging

end FileTree

namespace DataArea

variable {area : DataArea} {obstacles : Obstacles} {files written : FileTree} {name text : String}

-- How a write ends: before, at or behind the staged file.
inductive Exit (area : DataArea) (obstacles : Obstacles) (files : FileTree) (name text : String) : FileTree × Except Fault Unit → Prop
  | making {made : FileTree} {fault : FileFault} (refused : files.makeAll obstacles area.root = (made, .error fault)) :
      Exit area obstacles files name text (made, .error (.io fault.message))
  | staging {made : FileTree} {fault : FileFault} (making : files.makeAll obstacles area.root = (made, .ok ()))
      (refused : made.stage obstacles area.root = .error fault) :
      Exit area obstacles files name text (made, .error (.io fault.message))
  | settling {made tree : FileTree} {staged : Place} {fault : FileFault}
      (making : files.makeAll obstacles area.root = (made, .ok ())) (staging : made.stage obstacles area.root = .ok (tree, staged))
      (refused : tree.settle obstacles staged (area.pathOf name) text = (tree.giveUp obstacles staged, .error fault)) :
      Exit area obstacles files name text (tree.giveUp obstacles staged, .error (.io fault.message))
  | published {made published : FileTree} (making : files.makeAll obstacles area.root = (made, .ok ()))
      (found : published.read (area.pathOf name) = .ok text) (whole : made.Rooted → published.Rooted) :
      Exit area obstacles files name text (published, .ok ())

theorem write_exit (area : DataArea) (obstacles : Obstacles) (files : FileTree) (name text : String) :
    area.Exit obstacles files name text (area.write obstacles files name text) := by
  unfold write
  rcases making : files.makeAll obstacles area.root with ⟨made, fault | _⟩
  · exact .making making
  · dsimp only
    cases staging : made.stage obstacles area.root with
    | error fault => exact .staging making staging
    | ok pair =>
        obtain ⟨tree, staged⟩ := pair
        dsimp only
        rcases FileTree.settle_cases staging (area.pathOf name) text with ⟨fault, same⟩ | ⟨published, same, found, whole⟩
        · rw [same]
          exact .settling making staging same
        · rw [same]
          exact .published making found whole

-- At worst directories and a staged file are left behind.
theorem write_left {fault : Fault} (refused : area.write obstacles files name text = (written, .error fault)) :
    written = (files.makeAll obstacles area.root).1 ∨
      FileTree.Littered area.root obstacles.stagedName (files.makeAll obstacles area.root).1 written := by
  have exit := write_exit area obstacles files name text
  rw [refused] at exit
  cases exit with
  | making stopped =>
      rw [stopped]
      exact .inl rfl
  | staging making _ =>
      rw [making]
      exact .inl rfl
  | settling making staging _ =>
      rw [making]
      exact .inr (FileTree.giveUp_littered staging)

theorem write_rooted (rooted : files.Rooted) (area : DataArea) (obstacles : Obstacles) (name text : String) :
    (area.write obstacles files name text).1.Rooted := by
  have made := rooted.makeAll obstacles area.root
  have exit := write_exit area obstacles files name text
  rcases ended : area.write obstacles files name text with ⟨after, fault | _⟩
  · rcases write_left ended with rfl | littered
    · exact made
    · exact littered.rooted made
  · rw [ended] at exit
    cases exit with
    | published making _ whole =>
        rw [making] at made
        exact whole made

def textOf? (area : DataArea) (files : FileTree) (name : String) : Option String :=
  (files.read (area.pathOf name)).toOption

theorem textOf?_eq_some_iff : area.textOf? files name = some text ↔ files.read (area.pathOf name) = .ok text := by
  unfold textOf?
  cases files.read (area.pathOf name) <;> simp [Except.toOption]

theorem write_done (accepted : area.write obstacles files name text = (written, .ok ())) : area.textOf? written name = some text := by
  have exit := write_exit area obstacles files name text
  rw [accepted] at exit
  cases exit with
  | published _ found _ => exact textOf?_eq_some_iff.2 found

-- No staged file has this name.
structure IsDocument (name : String) : Prop where
  isName : (Path.ofString name).IsName
  own : ∀ obstacles : Obstacles, (Path.ofString name).bytes ≠ obstacles.stagedName

theorem write_failed (document : IsDocument name) {fault : Fault}
    (refused : area.write obstacles files name text = (written, .error fault)) :
    files.Overgrown (Path.ofString name).bytes written := by
  have grown := (files.makeAll_grown obstacles area.root).overgrown (Path.ofString name).bytes
  rcases write_left refused with rfl | littered
  · exact grown
  · exact grown.trans (littered.overgrown (document.own obstacles))

theorem documentName_isDocument : IsDocument LocationTable.documentName where
  isName := ⟨by decide +kernel, by decide +kernel, by decide +kernel, by decide +kernel⟩
  own obstacles same := by
    have long : (Path.ofString LocationTable.documentName).bytes.length = 28 := by decide +kernel
    have short : obstacles.stagedName.length = 10 := by simp [Obstacles.stagedName]
    rw [same, short] at long
    cases long

-- What cannot be read or decoded counts as empty.
def keptLocations (area : DataArea) (files : FileTree) : LocationTable :=
  ((area.textOf? files LocationTable.documentName).bind LocationTable.ofDocument).getD .empty

theorem loadLocations_eq (area : DataArea) (files : FileTree) :
    (area.loadLocations files).toOption.getD .empty = area.keptLocations files := by
  unfold loadLocations read Reader.ifPresent keptLocations textOf?
  cases files.read (area.pathOf LocationTable.documentName) with
  | error fault => cases fault <;> rfl
  | ok text =>
      cases decoded : LocationTable.ofDocument text <;>
        simp [bind, Except.bind, Except.mapError, Except.toOption, decoded] <;> rfl

theorem persistLocations_done {table : LocationTable}
    (accepted : area.persistLocations obstacles files table = (written, .ok ())) : area.keptLocations written = table := by
  have held : area.textOf? written LocationTable.documentName = some table.document := write_done accepted
  rw [keptLocations, held, Option.bind_some, LocationTable.ofDocument_document, Option.getD_some]

-- A missing document is not found behind directories that are still to be made.
def Secluded (area : DataArea) (files : FileTree) : Prop :=
  area.textOf? files LocationTable.documentName = none →
    ∀ tree, files.Overgrown (Path.ofString LocationTable.documentName).bytes tree →
      area.textOf? tree LocationTable.documentName = none

theorem secluded_of_text (held : area.textOf? files LocationTable.documentName = some text) : area.Secluded files := by
  intro none
  rw [held] at none
  cases none

section Failure

variable {table : LocationTable} {fault : Fault}
  (refused : area.persistLocations obstacles files table = (written, .error fault))
include refused

theorem textOf?_failed (held : area.textOf? files LocationTable.documentName = some text) :
    area.textOf? written LocationTable.documentName = some text :=
  textOf?_eq_some_iff.2
    (FileTree.read_kept (write_failed documentName_isDocument refused).toExtends (textOf?_eq_some_iff.1 held))

theorem secluded_failed (secluded : area.Secluded files) : area.Secluded written := by
  have grown := write_failed documentName_isDocument refused
  cases held : area.textOf? files LocationTable.documentName with
  | some text => exact secluded_of_text (textOf?_failed refused held)
  | none => exact fun _ tree more => secluded held tree (grown.trans more)

theorem keptLocations_failed (secluded : area.Secluded files) : area.keptLocations written = area.keptLocations files := by
  have same : area.textOf? written LocationTable.documentName = area.textOf? files LocationTable.documentName := by
    cases held : area.textOf? files LocationTable.documentName with
    | some text => exact textOf?_failed refused held
    | none => exact secluded held written (write_failed documentName_isDocument refused)
  rw [keptLocations, keptLocations, same]

end Failure

end DataArea
end RegionWiring
