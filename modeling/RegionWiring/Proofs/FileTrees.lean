import RegionWiring.Files.Tree
import RegionWiring.Proofs.Paths
import RegionWiring.Proofs.Results

namespace RegionWiring

namespace FileTree

section Walking

theorem isDirectoryAt_iff {tree : FileTree} {place : Place} :
    tree.isDirectoryAt place = true ↔ tree.at? place = some .directory := beq_iff_eq

theorem enter_eq_ok {tree : FileTree} {place next : Place} {name : FileName} (entered : tree.enter place name = .ok next) :
    tree.isDirectoryAt place = true ∧
      (name = FileName.here ∧ next = place ∨ name = FileName.up ∧ next = place.dropLast ∨
        name ≠ FileName.here ∧ name ≠ FileName.up ∧ name.tooLong = false ∧
          (tree.at? (place ++ [name])).isSome = true ∧ next = place ++ [name]) := by
  unfold enter at entered
  split at entered
  · cases entered
  rename_i directory
  refine ⟨by simpa using directory, ?_⟩
  split at entered
  · rename_i same
    cases entered
    exact .inl ⟨same, rfl⟩
  split at entered
  · rename_i same
    cases entered
    exact .inr (.inl ⟨same, rfl⟩)
  split at entered
  · cases entered
  split at entered
  · cases entered
  rename_i notHere notUp short present
  cases entered
  exact .inr (.inr ⟨notHere, notUp, by simpa using short, by simpa [Option.isSome_iff_ne_none] using present, rfl⟩)

theorem enter_here {tree : FileTree} {place : Place} (directory : tree.isDirectoryAt place = true) :
    tree.enter place FileName.here = .ok place := by
  simp [enter, directory]

theorem enter_down {tree : FileTree} {place : Place} {name : FileName} (directory : tree.isDirectoryAt place = true)
    (plain : name.isPlain = true) (short : name.tooLong = false) (present : (tree.at? (place ++ [name])).isSome = true) :
    tree.enter place name = .ok (place ++ [name]) := by
  have parts : name ≠ FileName.here ∧ name ≠ FileName.up := by simpa [FileName.isPlain] using plain
  simp [enter, directory, parts, short, Option.isSome_iff_ne_none.1 present]

theorem enter_other {a b : FileTree} {place next : Place} {name : FileName} (entered : a.enter place name = .ok next)
    (directory : b.isDirectoryAt place = true) (present : (a.at? next).isSome = true → (b.at? next).isSome = true) :
    b.enter place name = .ok next := by
  obtain ⟨_, ⟨rfl, rfl⟩ | ⟨rfl, rfl⟩ | ⟨notHere, notUp, short, there, rfl⟩⟩ := enter_eq_ok entered
  · exact enter_here directory
  · simp [enter, directory, FileName.up, FileName.here]
  · exact enter_down directory (by simp [FileName.isPlain, notHere, notUp]) short (present there)

theorem walk_append (tree : FileTree) (place : Place) (first second : List FileName) :
    tree.walk place (first ++ second) = (tree.walk place first).bind fun next => tree.walk next second := by
  induction first generalizing place with
  | nil => rfl
  | cons name rest ih =>
      show (tree.enter place name).bind _ = ((tree.enter place name).bind _).bind _
      cases tree.enter place name with
      | error fault => rfl
      | ok next => exact ih next

theorem walk_cons_eq_ok {tree : FileTree} {place last : Place} {name : FileName} {rest : List FileName}
    (walked : tree.walk place (name :: rest) = .ok last) :
    ∃ next, tree.enter place name = .ok next ∧ tree.walk next rest = .ok last :=
  bind_eq_ok_iff.1 walked

theorem walk_append_eq_ok {tree : FileTree} {place last : Place} {first second : List FileName}
    (walked : tree.walk place (first ++ second) = .ok last) :
    ∃ next, tree.walk place first = .ok next ∧ tree.walk next second = .ok last := by
  rw [walk_append] at walked
  exact bind_eq_ok_iff.1 walked

-- A walk between directories leads the same way in every tree that has them.
theorem walk_directories {a b : FileTree} (kept : ∀ q, a.isDirectoryAt q = true → b.isDirectoryAt q = true)
    {place last : Place} {names : List FileName} (walked : a.walk place names = .ok last)
    (directory : a.isDirectoryAt last = true) : b.walk place names = .ok last := by
  induction names generalizing place with
  | nil => exact walked
  | cons name rest ih =>
      obtain ⟨next, entered, behind⟩ := walk_cons_eq_ok walked
      have reached : a.isDirectoryAt next = true := by
        cases rest with
        | nil =>
            cases behind
            exact directory
        | cons second later =>
            obtain ⟨_, further, _⟩ := walk_cons_eq_ok behind
            exact (enter_eq_ok further).1
      have present : (b.at? next).isSome = true := by
        rw [isDirectoryAt_iff.1 (kept next reached)]
        rfl
      rw [walk, enter_other entered (kept place (enter_eq_ok entered).1) fun _ => present]
      exact ih behind

end Walking

section Resolving

variable {tree : FileTree} {p : Path}

theorem resolve_eq_ok {place : Place} (resolved : tree.resolve p = .ok place) :
    p.defect? = none ∧ tree.walk (tree.start p) p.steps = .ok place := by
  unfold resolve at resolved
  split at resolved
  · cases resolved
  rename_i sound
  obtain ⟨found, walked, kept⟩ := bind_eq_ok_iff.1 resolved
  split at kept
  · cases kept
  cases kept
  exact ⟨sound, walked⟩

theorem resolve_of_walk {place : Place} (sound : p.defect? = none) (walked : tree.walk (tree.start p) p.steps = .ok place)
    (fits : p.wantsDirectory = false ∨ tree.isDirectoryAt place = true) : tree.resolve p = .ok place := by
  unfold resolve
  rw [sound, walked]
  rcases fits with file | directory
  · simp [file, bind, Except.bind]
  · simp [directory, bind, Except.bind]

theorem read_eq_ok {s : String} (found : tree.read p = .ok s) :
    ∃ place, tree.resolve p = .ok place ∧ tree.at? place = some (.file (.text s)) := by
  obtain ⟨place, resolved, kept⟩ := bind_eq_ok_iff.1 found
  refine ⟨place, resolved, ?_⟩
  split at kept
  · rename_i node
    cases kept
    exact node
  all_goals cases kept

theorem read_of_resolve {place : Place} {s : String} (resolved : tree.resolve p = .ok place)
    (node : tree.at? place = some (.file (.text s))) : tree.read p = .ok s := by
  simp [read, resolved, node, bind, Except.bind]

theorem parentOf_eq_ok {place : Place} {last : Option FileName} (parent : tree.parentOf p = .ok (place, last)) :
    p.defect? = none ∧ tree.walk (tree.start p) p.steps.dropLast = .ok place ∧ tree.isDirectoryAt place = true ∧
      p.steps.getLast? = last := by
  unfold parentOf at parent
  split at parent
  · cases parent
  rename_i sound
  obtain ⟨found, walked, kept⟩ := bind_eq_ok_iff.1 parent
  split at kept
  · rename_i directory
    cases kept
    exact ⟨sound, walked, directory, rfl⟩
  · cases kept

end Resolving

section Writing

variable {tree made published : FileTree} {p : Path}

theorem at?_put (tree : FileTree) (above : Place) (name : FileName) (node : Node) (place : Place) :
    (tree.put (above ++ [name]) node).at? place = if above ++ [name] = place then some node else tree.at? place := by
  by_cases top : place = []
  · subst top
    simp [at?]
  · simp [at?, put, top, Table.get?_insert]

theorem at?_remove (tree : FileTree) (above : Place) (name : FileName) (place : Place) :
    (tree.remove (above ++ [name])).at? place = if above ++ [name] = place then none else tree.at? place := by
  by_cases top : place = []
  · subst top
    simp [at?]
  · simp [at?, remove, top, Table.get?_erase]

theorem makeDirectory_eq_ok (accepted : tree.makeDirectory p = .ok made) :
    ∃ place name, tree.parentOf p = .ok (place, some name) ∧ name.isPlain = true ∧ tree.at? (place ++ [name]) = none ∧
      made = tree.put (place ++ [name]) .directory := by
  obtain ⟨⟨place, _ | name⟩, parent, kept⟩ := bind_eq_ok_iff.1 accepted
  · cases kept
  simp only at kept
  split at kept
  · cases kept
  split at kept
  · cases kept
  split at kept
  · cases kept
  rename_i plain _ absent
  cases kept
  exact ⟨place, name, parent, by simpa using plain, by simpa using absent, rfl⟩

theorem createFile_eq_ok {staged : Place} (accepted : tree.createFile p = .ok (made, staged)) :
    ∃ place name, tree.parentOf p = .ok (place, some name) ∧ tree.at? (place ++ [name]) = none ∧
      made = tree.put (place ++ [name]) (.file (.text "")) ∧ staged = place ++ [name] := by
  obtain ⟨⟨place, _ | name⟩, parent, kept⟩ := bind_eq_ok_iff.1 accepted
  · cases kept
  simp only at kept
  split at kept
  · cases kept
  split at kept
  · cases kept
  split at kept
  · cases kept
  rename_i absent
  cases kept
  exact ⟨place, name, parent, by simpa using absent, rfl, rfl⟩

theorem publish_eq_ok {staged : Place} {content : Content} (accepted : tree.publish staged p content = .ok published) :
    ∃ place name, tree.parentOf p = .ok (place, some name) ∧ name.isPlain = true ∧ name.tooLong = false ∧
      p.wantsDirectory = false ∧ tree.isDirectoryAt (place ++ [name]) = false ∧
      published = (tree.remove staged).put (place ++ [name]) (.file content) := by
  obtain ⟨⟨place, _ | name⟩, parent, kept⟩ := bind_eq_ok_iff.1 accepted
  · cases kept
  simp only at kept
  split at kept
  · cases kept
  split at kept
  · cases kept
  split at kept
  · cases kept
  split at kept
  · cases kept
  split at kept
  · cases kept
  rename_i plain short noSlash _ notDirectory
  cases kept
  exact ⟨place, name, parent, by simpa using plain, by simpa using short, by simpa using noSlash, by simpa using notDirectory, rfl⟩

theorem isDirectoryAt_put {above : Place} {name : FileName} (free : tree.isDirectoryAt (above ++ [name]) = false) (node : Node)
    {q : Place} (directory : tree.isDirectoryAt q = true) : (tree.put (above ++ [name]) node).isDirectoryAt q = true := by
  have apart : above ++ [name] ≠ q := by
    rintro rfl
    rw [free] at directory
    cases directory
  rwa [isDirectoryAt, at?_put, if_neg apart]

theorem isDirectoryAt_put_file (tree : FileTree) (above : Place) (name : FileName) (content : Content) :
    (tree.put (above ++ [name]) (.file content)).isDirectoryAt (above ++ [name]) = false := by
  rw [isDirectoryAt, at?_put, if_pos rfl]
  rfl

theorem isDirectoryAt_remove {above : Place} {name : FileName} (file : tree.isDirectoryAt (above ++ [name]) = false) (q : Place) :
    (tree.remove (above ++ [name])).isDirectoryAt q = tree.isDirectoryAt q := by
  rw [isDirectoryAt, at?_remove]
  split
  · rename_i same
    subst same
    rw [file]
    rfl
  · rfl

theorem publish_read {above : Place} {staged : FileName} (file : tree.isDirectoryAt (above ++ [staged]) = false) {s : String}
    (accepted : tree.publish (above ++ [staged]) p (.text s) = .ok published) : published.read p = .ok s := by
  obtain ⟨place, name, parent, plain, short, noSlash, free, rfl⟩ := publish_eq_ok accepted
  obtain ⟨sound, walked, directory, last⟩ := parentOf_eq_ok parent
  obtain ⟨front, parts⟩ := List.getLast?_eq_some_iff.1 last
  rw [parts, List.dropLast_concat] at walked
  have still := isDirectoryAt_remove file
  have directories (q : Place) (there : tree.isDirectoryAt q = true) :=
    isDirectoryAt_put ((still _).trans free) (.file (.text s)) ((still q).trans there)
  have there : ((tree.remove (above ++ [staged])).put (place ++ [name]) (.file (.text s))).at? (place ++ [name]) =
      some (.file (.text s)) := by
    rw [at?_put, if_pos rfl]
  have entered := enter_down (directories place directory) plain short (by rw [there]; rfl)
  have whole : ((tree.remove (above ++ [staged])).put (place ++ [name]) (.file (.text s))).walk (tree.start p) p.steps =
      .ok (place ++ [name]) := by
    rw [parts, walk_append, walk_directories directories walked directory]
    show Except.bind (enter _ place name) _ = _
    rw [entered]
    rfl
  exact read_of_resolve (resolve_of_walk sound whole (.inl noSlash)) there

end Writing

section Documents

variable {tree : FileTree} {directory name : Path} (isName : name.IsName) {s : String}
include isName

theorem start_join (tree : FileTree) (directory : Path) : tree.start (directory.join name) = tree.start directory := by
  rw [FileTree.start, Path.isAbsolute_join isName, FileTree.start]

theorem read_join_eq_ok (found : tree.read (directory.join name) = .ok s) :
    (directory.join name).defect? = none ∧ ∃ place, tree.walk (tree.start directory) directory.steps = .ok place ∧
      tree.isDirectoryAt place = true ∧ tree.at? (place ++ [name.bytes]) = some (.file (.text s)) := by
  obtain ⟨final, resolved, node⟩ := read_eq_ok found
  obtain ⟨sound, walked⟩ := resolve_eq_ok resolved
  refine ⟨sound, ?_⟩
  rw [start_join isName, Path.steps_join isName] at walked
  obtain ⟨place, above, behind⟩ := walk_append_eq_ok walked
  obtain ⟨next, entered, rest⟩ := walk_cons_eq_ok behind
  cases rest
  obtain ⟨directoryThere, ⟨here, _⟩ | ⟨up, _⟩ | ⟨_, _, _, _, rfl⟩⟩ := enter_eq_ok entered
  · have plain := isName.plain
    rw [here] at plain
    cases plain
  · have plain := isName.plain
    rw [up] at plain
    cases plain
  · exact ⟨place, above, directoryThere, node⟩

theorem read_join {place : Place} (sound : (directory.join name).defect? = none)
    (walked : tree.walk (tree.start directory) directory.steps = .ok place) (there : tree.isDirectoryAt place = true) :
    tree.read (directory.join name) =
      match tree.at? (place ++ [name.bytes]) with
      | some (.file (.text s)) => .ok s
      | some (.file .undecodable) => .error .undecodable
      | some .directory => .error .isDirectory
      | none => .error .missing := by
  have noSlash := Path.wantsDirectory_join isName directory
  have steps : tree.walk (tree.start (directory.join name)) (directory.join name).steps = tree.enter place name.bytes := by
    rw [start_join isName, Path.steps_join isName, walk_append, walked]
    show Except.bind (tree.enter place name.bytes) _ = _
    cases tree.enter place name.bytes <;> rfl
  have plain : name.bytes ≠ FileName.here ∧ name.bytes ≠ FileName.up := by simpa [FileName.isPlain] using isName.plain
  cases node : tree.at? (place ++ [name.bytes]) with
  | none =>
      have missing : tree.enter place name.bytes = .error .missing := by simp [enter, there, plain, isName.short, node]
      simp [read, resolve, sound, steps, missing, bind, Except.bind]
  | some node' =>
      have entered := enter_down there isName.plain isName.short (by rw [node]; rfl)
      rw [read, resolve_of_walk sound (steps.trans entered) (.inl noSlash)]
      show (match tree.at? (place ++ [name.bytes]) with
        | some (.file (.text s)) => _ | some (.file .undecodable) => _ | some .directory => _ | none => _) = _
      rw [node]

end Documents

section Elsewhere

structure DifferAt (place : Place) (a b : FileTree) : Prop where
  home : a.home = b.home
  elsewhere : ∀ other, other ≠ place → a.at? other = b.at? other

theorem DifferAt.symm {place : Place} {a b : FileTree} (differ : DifferAt place a b) : DifferAt place b a :=
  ⟨differ.home.symm, fun other apart => (differ.elsewhere other apart).symm⟩

-- Ends at the place, or goes on from the directory there.
def Passes (tree : FileTree) (place start : Place) (names : List FileName) : Prop :=
  ∃ front behind, names = front ++ behind ∧ tree.walk start front = .ok place ∧
    (behind = [] ∨ tree.isDirectoryAt place = true)

variable {a b : FileTree} {place : Place} (differ : DifferAt place a b)
include differ

theorem walk_elsewhere {start last : Place} {names : List FileName} (apart : ¬ a.Passes place start names)
    (walked : a.walk start names = .ok last) : b.walk start names = .ok last := by
  induction names generalizing start with
  | nil => exact walked
  | cons name rest ih =>
      obtain ⟨next, entered, behind⟩ := walk_cons_eq_ok walked
      have directory := (enter_eq_ok entered).1
      have front : a.walk start [name] = .ok next := by rw [walk, entered]; rfl
      have startApart : start ≠ place := by
        rintro rfl
        exact apart ⟨[], name :: rest, rfl, rfl, .inr directory⟩
      have nextApart : next ≠ place := by
        rintro rfl
        refine apart ⟨[name], rest, rfl, front, ?_⟩
        cases rest with
        | nil => exact .inl rfl
        | cons second later =>
            obtain ⟨_, further, _⟩ := walk_cons_eq_ok behind
            exact .inr (enter_eq_ok further).1
      have same : b.enter start name = .ok next := by
        refine enter_other entered ?_ fun present => ?_
        · rwa [isDirectoryAt, ← differ.elsewhere start startApart]
        · rwa [← differ.elsewhere next nextApart]
      rw [walk, same]
      refine ih ?_ behind
      rintro ⟨first, later, rfl, reached, goesOn⟩
      refine apart ⟨name :: first, later, rfl, ?_, goesOn⟩
      rw [walk, entered]
      exact reached

theorem read_elsewhere {p : Path} {s : String} (apart : ¬ a.Passes place (a.start p) p.steps) (found : a.read p = .ok s) :
    b.read p = .ok s := by
  obtain ⟨last, resolved, node⟩ := read_eq_ok found
  obtain ⟨sound, walked⟩ := resolve_eq_ok resolved
  have lastApart : last ≠ place := by
    rintro rfl
    exact apart ⟨p.steps, [], (List.append_nil _).symm, walked, .inl rfl⟩
  have file : a.isDirectoryAt last = false := by
    rw [isDirectoryAt, node]
    rfl
  have noSlash : p.wantsDirectory = false := by
    cases wants : p.wantsDirectory with
    | false => rfl
    | true => simp [resolve, sound, walked, wants, file, bind, Except.bind] at resolved
  have starts : b.start p = a.start p := by rw [start, start, differ.home]
  have still : b.walk (b.start p) p.steps = .ok last := by
    rw [starts]
    exact walk_elsewhere differ apart walked
  refine read_of_resolve (resolve_of_walk sound still (.inl noSlash)) ?_
  rw [← differ.elsewhere last lastApart]
  exact node

theorem text_elsewhere {p : Path} (apart : ¬ a.Passes place (a.start p) p.steps) (alsoApart : ¬ b.Passes place (b.start p) p.steps) :
    (a.read p).toOption = (b.read p).toOption := by
  cases here : a.read p with
  | ok s => rw [read_elsewhere differ apart here]
  | error fault =>
      cases there : b.read p with
      | error other => rfl
      | ok s =>
          rw [read_elsewhere differ.symm alsoApart there] at here
          cases here

end Elsewhere
end FileTree
end RegionWiring
