import RegionWiring.Proofs.DataAreas

namespace RegionWiring

namespace FileTree

section Descending

variable {tree : FileTree} {place : Place}

def Descends (tree : FileTree) (place : Place) (names : List FileName) : Prop :=
  ∃ last, tree.walk place names = .ok last ∧ tree.isDirectoryAt last = true

theorem descends_front {first second : List FileName} (descends : tree.Descends place (first ++ second)) :
    tree.Descends place first := by
  obtain ⟨last, walked, directory⟩ := descends
  obtain ⟨next, front, behind⟩ := walk_append_eq_ok walked
  refine ⟨next, front, ?_⟩
  cases second with
  | nil =>
      cases behind
      exact directory
  | cons name rest =>
      obtain ⟨_, entered, _⟩ := walk_cons_eq_ok behind
      exact (enter_eq_ok entered).1

-- Idle steps lead nowhere.
theorem descends_filter {names : List FileName} (descends : tree.Descends place names) :
    tree.Descends place (names.filter (· ≠ FileName.here)) := by
  induction names generalizing place with
  | nil => exact descends
  | cons name rest ih =>
      obtain ⟨last, walked, directory⟩ := descends
      obtain ⟨next, entered, behind⟩ := walk_cons_eq_ok walked
      have later := ih ⟨last, behind, directory⟩
      by_cases idle : name = FileName.here
      · subst idle
        rw [enter_here (enter_eq_ok entered).1] at entered
        cases entered
        simpa using later
      · obtain ⟨final, walkedLater, directoryLater⟩ := later
        rw [List.filter_cons_of_pos (by simpa using idle)]
        refine ⟨final, ?_, directoryLater⟩
        rw [walk, entered]
        exact walkedLater

theorem descends_spine {p : Path} (descends : tree.Descends place p.steps) : tree.Descends place p.spine := by
  unfold Path.spine
  split
  · rename_i none
    rwa [none] at descends
  · rename_i first rest parts
    rw [parts] at descends
    obtain ⟨last, walked, directory⟩ := descends
    obtain ⟨next, entered, behind⟩ := walk_cons_eq_ok walked
    have later := descends_filter ⟨last, behind, directory⟩
    split
    · rename_i idle
      have here : first = FileName.here := by simpa using (Bool.and_eq_true_iff.1 idle).2
      subst here
      rw [enter_here (enter_eq_ok entered).1] at entered
      cases entered
      exact later
    · obtain ⟨final, walkedLater, directoryLater⟩ := later
      refine ⟨final, ?_, directoryLater⟩
      rw [walk, entered]
      exact walkedLater

theorem isDirectory_of_descends {p : Path} (sound : p.defect? = none) (descends : tree.Descends (tree.start p) p.steps) :
    tree.isDirectory p = true := by
  obtain ⟨last, walked, directory⟩ := descends
  rw [isDirectory, resolve_of_walk sound walked (.inr directory)]
  exact directory

end Descending

section Making

variable {tree made : FileTree} {fault : FileFault} {obstacles : Obstacles} (clear : ∀ p, obstacles.directory p = none)
include clear

theorem ensureDirectory_error {p : Path} (failed : tree.ensureDirectory obstacles p = (made, .error fault)) :
    made.isDirectory p = false := by
  unfold ensureDirectory at failed
  rw [clear p] at failed
  dsimp only at failed
  split at failed
  · cases failed
  · obtain ⟨rfl, refused⟩ := Prod.mk.inj failed
    split at refused
    · cases refused
    · rename_i notDirectory
      exact Bool.eq_false_iff.2 notDirectory

-- What cannot be made is at the end of some front part of the spine.
theorem makeSpine_error {absolute : Bool} {names : List FileName}
    (failed : tree.makeSpine obstacles absolute names = (made, .error fault)) :
    ∃ part, part <:+ names ∧ part ≠ [] ∧ made.isDirectory (.ofSpine absolute part.reverse) = false := by
  induction names generalizing tree made fault with
  | nil => cases failed
  | cons last above ih =>
      have whole {tree : FileTree} {fault : FileFault}
          (stopped : tree.ensureDirectory obstacles (.ofSpine absolute (last :: above).reverse) = (made, .error fault)) :
          ∃ part, part <:+ last :: above ∧ part ≠ [] ∧ made.isDirectory (.ofSpine absolute part.reverse) = false :=
        ⟨last :: above, List.suffix_refl _, List.cons_ne_nil _ _, ensureDirectory_error clear stopped⟩
      simp only [makeSpine] at failed
      split at failed
      · split at failed
        · exact whole failed
        · obtain ⟨part, within, present, notDirectory⟩ := ih failed
          exact ⟨part, within.trans (List.suffix_cons last above), present, notDirectory⟩
      · exact whole failed

theorem makeAll_error {p : Path} (failed : tree.makeAll obstacles p = (made, .error fault)) :
    p.spine ≠ [] ∧ (made.isDirectory p = false ∨
      ∃ front, front <+: p.spine ∧ front ≠ [] ∧ made.isDirectory (.ofSpine p.isAbsolute front) = false) := by
  unfold makeAll at failed
  split at failed
  · cases failed
  rename_i steps
  refine ⟨steps, ?_⟩
  split at failed
  · split at failed
    · exact .inl (ensureDirectory_error clear failed)
    · obtain ⟨part, within, present, notDirectory⟩ := makeSpine_error clear failed
      have front : part.reverse <+: p.spine := by
        rw [← List.reverse_suffix, List.reverse_reverse]
        exact within.trans (List.tail_suffix _)
      exact .inr ⟨part.reverse, front, by simpa using present, notDirectory⟩
  · exact .inl (ensureDirectory_error clear failed)

-- Otherwise each directory above would be there, and so none could not be made.
theorem not_descends_of_error {p : Path} (sound : p.bytes = [] ∨ p.defect? = none)
    (failed : tree.makeAll obstacles p = (made, .error fault)) : ¬ made.Descends (made.start p) p.steps := by
  intro descends
  obtain ⟨steps, cause⟩ := makeAll_error clear failed
  have rules : p.defect? = none := sound.resolve_left fun empty => steps (by simp [Path.spine, Path.steps, empty])
  rcases cause with notDirectory | ⟨front, within, present, notDirectory⟩
  · rw [isDirectory_of_descends rules descends] at notDirectory
    cases notDirectory
  · have part := within.sublist.trans p.spine_sublist
    have reached : made.Descends (made.start p) front := by
      obtain ⟨behind, whole⟩ := within
      have spine := descends_spine descends
      rw [← whole] at spine
      exact descends_front spine
    have start : made.start (.ofSpine p.isAbsolute front) = made.start p := by
      rw [FileTree.start, Path.isAbsolute_above part present, FileTree.start]
    rw [isDirectory_of_descends (Path.defect_above part present rules)
      (by rwa [start, Path.steps_above part])] at notDirectory
    cases notDirectory

end Making

section Beside

variable {tree made : FileTree} {directory name : Path} (isName : name.IsName) {s : String} {obstacles : Obstacles} {staged : Place}
include isName

theorem parentOf_join {place : Place} (sound : (directory.join name).defect? = none)
    (walked : tree.walk (tree.start directory) directory.steps = .ok place) (there : tree.isDirectoryAt place = true) :
    tree.parentOf (directory.join name) = .ok (place, some name.bytes) := by
  simp [parentOf, sound, start_join isName, Path.steps_join isName, walked, there, bind, Except.bind]

-- Where a document can be read, a file of another name can be made beside it.
theorem stage_of_read (found : tree.read (directory.join name) = .ok s) (creating : obstacles.creating = none)
    (shorter : obstacles.stagedName.length ≤ name.bytes.length)
    (free : ∀ place, tree.at? (place ++ [obstacles.stagedName]) = none) : ∃ pair, tree.stage obstacles directory = .ok pair := by
  have beside := stagedName_isName obstacles
  obtain ⟨sound, place, walked, there, _⟩ := read_join_eq_ok isName found
  have noNul : (0 : UInt8) ∉ obstacles.stagedName := not_mem_stagedName obstacles (by decide) (by decide)
  have parent := parentOf_join beside (Path.defect_join_other isName directory beside noNul shorter sound) walked there
  refine ⟨(tree.put (place ++ [obstacles.stagedName]) (.file (.text "")), place ++ [obstacles.stagedName]), ?_⟩
  simp [stage, creating, createFile, parent, beside.plain, beside.short, Path.wantsDirectory_join beside, free, bind, Except.bind]

-- And the document can be replaced by that file.
theorem settle_of_read (found : tree.read (directory.join name) = .ok s) (accepted : tree.stage obstacles directory = .ok (made, staged))
    (settling : obstacles.filling.or (obstacles.flushing.or obstacles.moving) = none) (text : String) :
    ∃ published, made.settle obstacles staged (directory.join name) text = (published, .ok ()) := by
  obtain ⟨sound, place, walked, there, node⟩ := read_join_eq_ok isName found
  obtain ⟨above, also, _, absent, rfl, rfl⟩ := stage_eq_ok accepted
  obtain rfl : above = place := Except.ok.inj (also.symm.trans walked)
  have free : tree.isDirectoryAt (above ++ [obstacles.stagedName]) = false := by simp [isDirectoryAt, absent]
  unfold settle
  rw [settling]
  dsimp only [Option.elim_none]
  generalize filled_eq : ((tree.put (above ++ [obstacles.stagedName]) (.file (.text ""))).put (above ++ [obstacles.stagedName])
    (.file (.text text))) = filled
  have kept (q : Place) (directory : tree.isDirectoryAt q = true) : filled.isDirectoryAt q = true := by
    rw [← filled_eq]
    exact isDirectoryAt_put (isDirectoryAt_put_file _ _ _ _) _ (isDirectoryAt_put free _ directory)
  have start : filled.start directory = tree.start directory := by
    rw [← filled_eq]
    rfl
  have parent := parentOf_join isName sound (by rw [start]; exact walk_directories kept walked there) (kept _ there)
  have notAbove : (above ++ [name.bytes]).isPrefixOf above = false := by
    rw [Bool.eq_false_iff, ne_eq, List.isPrefixOf_iff_prefix]
    intro front
    have longer := front.length_le
    rw [List.length_append, List.length_singleton] at longer
    omega
  have notDirectory : filled.isDirectoryAt (above ++ [name.bytes]) = false := by
    rw [← filled_eq, isDirectoryAt, at?_put, at?_put, node]
    split <;> rfl
  simp [publish, parent, isName.plain, isName.short, Path.wantsDirectory_join isName, notAbove, notDirectory, bind, Except.bind]

end Beside

end FileTree

namespace DataArea

variable {area : DataArea} {obstacles : Obstacles} {files written : FileTree} {name text : String}

-- Nothing is wrong with the system, and the staged file has a name of its own.
structure Clear (area : DataArea) (obstacles : Obstacles) (files : FileTree) : Prop where
  directory : ∀ p, obstacles.directory p = none
  creating : obstacles.creating = none
  settling : obstacles.filling.or (obstacles.flushing.or obstacles.moving) = none
  free : ∀ place, (files.makeAll obstacles area.root).1.at? (place ++ [obstacles.stagedName]) = none

-- A document that can be read afterwards could have been replaced.
theorem textOf?_clear (document : IsDocument name) (shorter : obstacles.stagedName.length ≤ (Path.ofString name).bytes.length)
    (clear : area.Clear obstacles files) {fault : Fault}
    (refused : area.write obstacles files name text = (written, .error fault)) : area.textOf? written name = none := by
  cases held : area.textOf? written name with
  | none => rfl
  | some s =>
      exfalso
      have isName := document.isName
      have found := textOf?_eq_some_iff.1 held
      have free := clear.free
      have exit := write_exit area obstacles files name text
      rw [refused] at exit
      cases exit with
      | making stopped =>
          obtain ⟨sound, place, walked, there, _⟩ := FileTree.read_join_eq_ok isName found
          have rules := Path.defect_of_join isName area.root sound
          exact FileTree.not_descends_of_error clear.directory rules stopped ⟨place, walked, there⟩
      | staging making stopped =>
          rw [making] at free
          obtain ⟨pair, able⟩ := FileTree.stage_of_read isName found clear.creating shorter free
          cases able.symm.trans stopped
      | @settling made tree staged _ _ staging stopped =>
          have before : made.read (area.pathOf name) = .ok s :=
            (FileTree.read_littered isName (FileTree.giveUp_littered staging) (document.own obstacles)).symm.trans found
          obtain ⟨published, able⟩ := FileTree.settle_of_read isName before staging clear.settling text
          cases able.symm.trans stopped

theorem keptLocations_clear {table : LocationTable} (clear : area.Clear obstacles files) {fault : Fault}
    (refused : area.persistLocations obstacles files table = (written, .error fault)) :
    area.keptLocations written = area.keptLocations files := by
  have shorter : obstacles.stagedName.length ≤ (Path.ofString LocationTable.documentName).bytes.length := by
    have long : (Path.ofString LocationTable.documentName).bytes.length = 28 := by decide +kernel
    simp [Obstacles.stagedName, long]
  have after := textOf?_clear documentName_isDocument shorter clear refused
  have before : area.textOf? files LocationTable.documentName = none := by
    cases held : area.textOf? files LocationTable.documentName with
    | none => rfl
    | some text =>
        rw [textOf?_failed refused held] at after
        cases after
  rw [keptLocations, keptLocations, after, before]

end DataArea

end RegionWiring
