import RegionWiring.Proofs.Restart

namespace RegionWiring

-- Goes back up, or has a name that no directory takes.
def Path.Winding (p : Path) : Prop := ∃ name ∈ p.steps, name = FileName.up ∨ name.tooLong = true

namespace DataArea

variable {area : DataArea} {obstacles : Obstacles} {files written : FileTree} {name text : String}

theorem read_eq_some_iff : area.read files name = .ok (some text) ↔ files.read (area.pathOf name) = .ok text := by
  rw [read, mapError_eq_ok_iff, Reader.ifPresent]
  split <;> simp_all

theorem read_eq_none_iff : area.read files name = .ok none ↔ files.read (area.pathOf name) = .error .missing := by
  rw [read, mapError_eq_ok_iff, Reader.ifPresent]
  split <;> simp_all

theorem read_congr {others : FileTree} (same : files.read (area.pathOf name) = others.read (area.pathOf name)) :
    area.read files name = area.read others name := by
  rw [read, read, Reader.ifPresent, Reader.ifPresent, same]

theorem loadLocations_congr {others : FileTree}
    (same : area.read files LocationTable.documentName = area.read others LocationTable.documentName) :
    area.loadLocations files = area.loadLocations others := by
  rw [loadLocations, loadLocations, same]

theorem loadLocations_of_read {table : LocationTable} (found : area.read files LocationTable.documentName = .ok (some table.document)) :
    area.loadLocations files = .ok table := by
  simp only [loadLocations, found, LocationTable.ofDocument_document, bind, Except.bind]
  rfl

theorem absent_after_making (rooted : files.Rooted) (isName : (Path.ofString name).IsName) (straight : ¬ area.root.Winding)
    (absent : files.read (area.pathOf name) = .error .missing) :
    (files.makeAll obstacles area.root).1.read (area.pathOf name) = .error .missing := by
  have steps : (area.pathOf name).steps = area.root.steps ++ [(Path.ofString name).bytes] := Path.steps_join isName area.root
  have start : files.start (area.pathOf name) = files.start area.root := FileTree.start_join isName files area.root
  have deep : files.reach area.root < files.reach (area.pathOf name) := by
    have longer : FileName.depth (area.pathOf name).steps = FileName.depth area.root.steps + 1 := by
      simp [FileName.depth, steps, isName.plain]
    rw [FileTree.reach, FileTree.reach, start, longer]
    exact Nat.lt_succ_self _
  have last : (Path.ofString name).bytes ≠ FileName.up ∧ FileName.tooLong (Path.ofString name).bytes = false := by
    refine ⟨fun up => ?_, isName.short⟩
    have plain := isName.plain
    rw [up] at plain
    cases plain
  have front : ∀ step ∈ area.root.steps, step ≠ FileName.up ∧ step.tooLong = false := fun step inside =>
    ⟨fun up => straight ⟨step, inside, .inl up⟩, Bool.eq_false_iff.2 fun long => straight ⟨step, inside, .inr long⟩⟩
  refine FileTree.read_missing_grown rooted (files.makeAll_grown obstacles area.root) ?_ deep absent
  rw [steps]
  exact List.forall_mem_append.2 ⟨front, List.forall_mem_singleton.2 last⟩

-- An absent document may be found elsewhere where the path winds.
theorem read_after_failure (rooted : files.Rooted) (document : IsDocument name) {fault : Fault}
    (refused : area.write obstacles files name text = (written, .error fault)) :
    area.read written name = area.read files name ∨ area.read files name = .ok none ∧ area.root.Winding := by
  have made : written.read (area.pathOf name) = (files.makeAll obstacles area.root).1.read (area.pathOf name) := by
    rcases write_left refused with rfl | littered
    · rfl
    · exact FileTree.read_littered document.isName littered (document.own obstacles)
  by_cases absent : files.read (area.pathOf name) = .error .missing
  · by_cases winding : area.root.Winding
    · exact .inr ⟨read_eq_none_iff.2 absent, winding⟩
    · exact .inl (read_congr (made.trans ((absent_after_making rooted document.isName winding absent).trans absent.symm)))
  · have grown := files.makeAll_grown obstacles area.root
    exact .inl (read_congr (made.trans (FileTree.read_more rooted grown.toExtends absent)))

-- What is there if the writing stops at any of its steps.
def Interim (area : DataArea) (files : FileTree) (name text : String) (tree : FileTree) : Prop :=
  ∃ obstacles, (area.write obstacles files name text).1 = tree

-- A reader sees the new text, or a text that some file held before.
theorem interim_read (rooted : files.Rooted) (document : IsDocument name) {tree : FileTree}
    (interim : area.Interim files name text tree) :
    area.read tree name = .ok (some text) ∨ area.read tree name = area.read files name ∨
      (area.read files name = .ok none ∧ area.root.Winding) ∧
        ∀ seen, area.read tree name = .ok (some seen) → ∃ place, files.at? place = some (.file (.text seen)) := by
  obtain ⟨obstacles, rfl⟩ := interim
  rcases written : area.write obstacles files name text with ⟨after, fault | _⟩
  · rcases read_after_failure rooted document written with same | lost
    · exact .inr (.inl same)
    · refine .inr (.inr ⟨lost, fun seen found => ?_⟩)
      obtain ⟨_, place, _, _, there⟩ := FileTree.read_join_eq_ok document.isName (read_eq_some_iff.1 found)
      exact ⟨_, (write_failed document written).files place _ there⟩
  · exact .inl (read_eq_some_iff.2 (textOf?_eq_some_iff.1 (write_done written)))

end DataArea

namespace Session

theorem persist_unconfigured {s : Session} (none : s.area = none) (obstacles : Obstacles) :
    s.persist obstacles = (s, .error (.fault (.config (.persistence "no data area is configured")))) := by
  unfold persist
  rw [none]

theorem next_rooted {s : Session} (rooted : s.files.Rooted) (step : Step) : (s.next step).files.Rooted := by
  cases alone : step.intrudes with
  | false =>
      rcases next_files_cases s alone with ⟨obstacles, rfl⟩ | ⟨_, same, _⟩
      · show (s.persist obstacles).1.files.Rooted
        cases configured : s.area with
        | none =>
            rw [persist_unconfigured configured]
            exact rooted
        | some area =>
            rw [persist_configured configured]
            exact DataArea.write_rooted rooted area obstacles _ _
      · rwa [same]
  | true =>
      cases step with
      | putFile path text =>
          show (s.putFile path text).1.files.Rooted
          unfold putFile
          split
          · rename_i files accepted
            exact rooted.write accepted
          · exact rooted
      | putInArea obstacles root name text =>
          have written := DataArea.write_rooted rooted ⟨.ofString root⟩ obstacles name text
          show (s.putInArea obstacles root name text).1.files.Rooted
          unfold putInArea
          split
          · rename_i files accepted
            rwa [accepted] at written
          · rename_i files fault refused
            rwa [refused] at written
      | _ => cases alone

theorem after_rooted {s : Session} (rooted : s.files.Rooted) (steps : List Step) : (s.after steps).files.Rooted :=
  after_invariant (P := fun s => s.files.Rooted) (fun step rooted => next_rooted rooted step) rooted steps

-- A persist ends with exactly the table in the document, or with the document as before. An absent document may read as an
-- error afterwards where its path winds.
theorem persist_all_or_nothing {s : Session} (rooted : s.files.Rooted) :
    (s.area = none → ∀ obstacles,
      s.persist obstacles = (s, .error (.fault (.config (.persistence "no data area is configured"))))) ∧
    (∀ steps, (s.after steps).files.Rooted) ∧
    ∀ area, s.area = some area →
      let document (files : FileTree) := area.read files LocationTable.documentName
      let same (files : FileTree) := document files = document s.files ∧ area.loadLocations files = area.loadLocations s.files
      let changed (files : FileTree) := document files = .ok (some s.locations.document) ∧ area.loadLocations files = .ok s.locations
      let diverted := document s.files = .ok none ∧ area.root.Winding
      LocationTable.ofDocument s.locations.document = some s.locations ∧
      (∀ obstacles, ∃ files, (s.persist obstacles).1 = { s with files } ∧
        ((s.persist obstacles).2 = .ok .done ∧ changed files ∨
          (∃ fault, (s.persist obstacles).2 = .error (.fault fault)) ∧ (same files ∨ diverted))) ∧
      ∀ tree, area.Interim s.files LocationTable.documentName s.locations.document tree →
        changed tree ∨ same tree ∨ diverted ∧
          ∀ text, document tree = .ok (some text) → ∃ place, s.files.at? place = some (.file (.text text)) := by
  refine ⟨persist_unconfigured, after_rooted rooted, ?_⟩
  intro area configured document same changed diverted
  refine ⟨LocationTable.ofDocument_document _, ?_, ?_⟩
  · intro obstacles
    rw [persist_configured configured]
    refine ⟨_, rfl, ?_⟩
    rcases written : area.persistLocations obstacles s.files s.locations with ⟨files, fault | _⟩
    · refine .inr ⟨⟨fault, rfl⟩, ?_⟩
      rcases DataArea.read_after_failure rooted DataArea.documentName_isDocument written with reads | lost
      · exact .inl ⟨reads, DataArea.loadLocations_congr reads⟩
      · exact .inr lost
    · have found : area.read files LocationTable.documentName = .ok (some s.locations.document) :=
        DataArea.read_eq_some_iff.2 (DataArea.textOf?_eq_some_iff.1 (DataArea.write_done written))
      exact .inl ⟨rfl, found, DataArea.loadLocations_of_read found⟩
  · intro tree interim
    rcases DataArea.interim_read rooted DataArea.documentName_isDocument interim with found | reads | lost
    · exact .inl ⟨found, DataArea.loadLocations_of_read found⟩
    · exact .inr (.inl ⟨reads, DataArea.loadLocations_congr reads⟩)
    · exact .inr (.inr lost)

def olderDocument : FileTree :=
  ⟨(Table.empty.insert [[98]] .directory).insert [[98], (Path.ofString LocationTable.documentName).bytes] (.file (.text "\x7b\x7d")), []⟩

-- The disk is full; the older document stays.
theorem persist_all_or_nothing_full :
    ∃ opened, start baseless .empty (some ⟨.ofString "b"⟩) olderDocument = .ok opened ∧
      let s := (opened.value.after [.addLocation "k" "f"])
      let document (files : FileTree) := (DataArea.mk (.ofString "b")).read files LocationTable.documentName
      s.files.Rooted ∧ (s.persist diskFull).2 ≠ .ok .done ∧ document (s.persist diskFull).1.files = .ok (some "\x7b\x7d") ∧
        (s.persist diskFull).1.locations = s.locations ∧ s.locations.entries.map Prod.fst = ["k"] := by
  refine ⟨_, rfl, ?_⟩
  intro s document
  have rooted : s.files.Rooted := ⟨by decide +kernel, by decide +kernel⟩
  have older : document s.files = .ok (some "\x7b\x7d") := by decide +kernel
  obtain ⟨_, _, each⟩ := persist_all_or_nothing rooted
  obtain ⟨_, outcome, _⟩ := each ⟨.ofString "b"⟩ rfl
  obtain ⟨files, same, ⟨done, _⟩ | ⟨⟨fault, failed⟩, reads | ⟨absent, _⟩⟩⟩ := outcome diskFull
  · have failed : (s.persist diskFull).2 = .error (.fault (.io "No space left on device (os error 28)")) := rfl
    rw [failed] at done
    cases done
  · rw [same]
    exact ⟨rooted, by rw [failed]; exact nofun, reads.1.trans older, rfl, by decide +kernel⟩
  · cases older.symm.trans absent

def fileNamed (name : FileName) : FileTree := ⟨Table.empty.insert [name] (.file (.text "x")), []⟩

-- A new directory on the way leads on to a file.
theorem persist_loses_absence :
    ∃ opened, start baseless .empty (some ⟨.ofString "a/../b"⟩) (fileNamed [98]) = .ok opened ∧
      let s := opened.value
      let document (files : FileTree) := (DataArea.mk (.ofString "a/../b")).read files LocationTable.documentName
      s.files.Rooted ∧ (s.persist {}).2 = .error (.fault (.io "File exists (os error 17)")) ∧
        document s.files = .ok none ∧ document (s.persist {}).1.files = .error (.io "Not a directory (os error 20)") := by
  refine ⟨_, rfl, ?_⟩
  intro s document
  exact ⟨⟨by decide +kernel, by decide +kernel⟩, rfl, by decide +kernel, by decide +kernel⟩

end Session
end RegionWiring
