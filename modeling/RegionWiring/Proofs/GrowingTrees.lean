import Mathlib.Data.List.Induction
import Mathlib.Data.List.Nodup
import RegionWiring.Proofs.Collections
import RegionWiring.Proofs.FileTrees

namespace RegionWiring

namespace FileName

-- How many names lead one level down.
def depth (names : List FileName) : Nat := (names.filter isPlain).length

theorem depth_sublist {first second : List FileName} (part : first.Sublist second) : depth first ≤ depth second :=
  (part.filter isPlain).length_le

end FileName

namespace FileTree

-- Everything lies in a directory that is there.
structure Rooted (tree : FileTree) : Prop where
  home : tree.isDirectoryAt tree.home = true
  above : ∀ place ∈ tree.nodes.keys, tree.isDirectoryAt place.dropLast = true

-- Nothing is gone or changed.
structure Extends (a b : FileTree) : Prop where
  home : b.home = a.home
  kept : ∀ place node, a.at? place = some node → b.at? place = some node

-- Only directories were added, and only so deep.
structure Grown (depth : Nat) (a b : FileTree) : Prop extends Extends a b where
  added : ∀ place, a.at? place = none → b.at? place = none ∨ b.at? place = some .directory ∧ place.length ≤ depth

-- What was added is no file of this name.
structure Overgrown (name : FileName) (a b : FileTree) : Prop extends Extends a b where
  files : ∀ place content, b.at? (place ++ [name]) = some (.file content) → a.at? (place ++ [name]) = some (.file content)

-- At most one more file, of this name, in this directory.
def Littered (directory : Path) (name : FileName) (a b : FileTree) : Prop :=
  ∃ place, a.walk (a.start directory) directory.steps = .ok place ∧ a.isDirectoryAt place = true ∧
    a.at? (place ++ [name]) = none ∧ DifferAt (place ++ [name]) a b ∧ b.isDirectoryAt (place ++ [name]) = false

section Rooting

variable {tree : FileTree}

theorem Rooted.above_at (rooted : tree.Rooted) {place : Place} {node : Node} (present : tree.at? place = some node) :
    tree.at? place.dropLast = some .directory := by
  by_cases top : place = []
  · subst top
    rfl
  · rw [at?, if_neg top] at present
    exact isDirectoryAt_iff.1 (rooted.above place ((Table.mem_keys_iff _ _).2 ⟨node, present⟩))

theorem Rooted.start (rooted : tree.Rooted) (p : Path) : tree.at? (tree.start p) = some .directory := by
  unfold FileTree.start
  split
  · rfl
  · exact isDirectoryAt_iff.1 rooted.home

theorem Rooted.put (rooted : tree.Rooted) {place : Place} (directory : tree.isDirectoryAt place = true) {name : FileName}
    (free : tree.isDirectoryAt (place ++ [name]) = false) (node : Node) : (tree.put (place ++ [name]) node).Rooted := by
  refine ⟨isDirectoryAt_put free node rooted.home, ?_⟩
  intro other inside
  apply isDirectoryAt_put free
  obtain ⟨found, there⟩ := (Table.mem_keys_iff _ _).1 inside
  have either : (tree.nodes.insert (place ++ [name]) node).get? other = some found := there
  rw [Table.get?_insert] at either
  split at either
  · rename_i same
    subst same
    rwa [List.dropLast_concat]
  · exact rooted.above other ((Table.mem_keys_iff _ _).2 ⟨found, either⟩)

theorem Rooted.remove (rooted : tree.Rooted) {place : Place} {name : FileName}
    (file : tree.isDirectoryAt (place ++ [name]) = false) : (tree.remove (place ++ [name])).Rooted := by
  refine ⟨(isDirectoryAt_remove file _).trans rooted.home, ?_⟩
  intro other inside
  rw [isDirectoryAt_remove file]
  obtain ⟨found, there⟩ := (Table.mem_keys_iff _ _).1 inside
  have either : (tree.nodes.erase (place ++ [name])).get? other = some found := there
  rw [Table.get?_erase] at either
  split at either
  · cases either
  · exact rooted.above other ((Table.mem_keys_iff _ _).2 ⟨found, either⟩)

theorem Rooted.front (rooted : tree.Rooted) {place front : Place} {node : Node} (present : tree.at? place = some node)
    (above : front <+: place) (proper : front ≠ place) : tree.at? front = some .directory := by
  induction place using List.reverseRecOn generalizing node with
  | nil => exact absurd (List.prefix_nil.1 above) proper
  | append_singleton place name ih =>
      have parent := rooted.above_at present
      rw [List.dropLast_concat] at parent
      have shorter : front <+: place := (List.prefix_concat_iff.1 above).resolve_left proper
      by_cases whole : front = place
      · rwa [whole]
      · exact ih parent shorter whole

theorem present_of_enter (rooted : tree.Rooted) {place next : Place} {name : FileName} (entered : tree.enter place name = .ok next) :
    ∃ node, tree.at? next = some node := by
  obtain ⟨directory, ⟨_, rfl⟩ | ⟨_, rfl⟩ | ⟨_, _, _, present, rfl⟩⟩ := enter_eq_ok entered
  · exact ⟨_, isDirectoryAt_iff.1 directory⟩
  · exact ⟨_, rooted.above_at (isDirectoryAt_iff.1 directory)⟩
  · exact Option.isSome_iff_exists.1 present

theorem present_of_walk (rooted : tree.Rooted) {place last : Place} {names : List FileName} {node : Node}
    (present : tree.at? place = some node) (walked : tree.walk place names = .ok last) : ∃ node, tree.at? last = some node := by
  induction names generalizing place node with
  | nil =>
      cases walked
      exact ⟨node, present⟩
  | cons name rest ih =>
      obtain ⟨next, entered, behind⟩ := walk_cons_eq_ok walked
      obtain ⟨other, there⟩ := present_of_enter rooted entered
      exact ih there behind

theorem walk_length {place last : Place} {names : List FileName} (walked : tree.walk place names = .ok last) :
    last.length ≤ place.length + FileName.depth names := by
  induction names generalizing place with
  | nil =>
      cases walked
      exact Nat.le_add_right _ _
  | cons name rest ih =>
      obtain ⟨next, entered, behind⟩ := walk_cons_eq_ok walked
      have later := ih behind
      obtain ⟨_, ⟨rfl, rfl⟩ | ⟨rfl, rfl⟩ | ⟨notHere, notUp, _, _, rfl⟩⟩ := enter_eq_ok entered
      · exact later
      · have shorter : place.dropLast.length ≤ place.length := place.dropLast_sublist.length_le
        show last.length ≤ place.length + FileName.depth rest
        omega
      · have plain : name.isPlain = true := by simp [FileName.isPlain, notHere, notUp]
        have longer : FileName.depth (name :: rest) = FileName.depth rest + 1 := by simp [FileName.depth, plain]
        rw [List.length_append, List.length_singleton] at later
        omega

end Rooting

section Growing

variable {depth : Nat} {a b c : FileTree}

theorem Extends.refl (tree : FileTree) : Extends tree tree := ⟨rfl, fun _ _ there => there⟩

theorem Extends.start (more : Extends a b) (p : Path) : b.start p = a.start p := by
  rw [FileTree.start, FileTree.start, more.home]

theorem Grown.refl (depth : Nat) (tree : FileTree) : Grown depth tree tree := ⟨.refl tree, fun _ absent => .inl absent⟩

theorem Grown.overgrown (grown : Grown depth a b) (name : FileName) : Overgrown name a b := by
  refine ⟨grown.toExtends, fun place content there => ?_⟩
  cases before : a.at? (place ++ [name]) with
  | none =>
      rcases grown.added _ before with absent | ⟨directory, _⟩
      · cases absent.symm.trans there
      · cases directory.symm.trans there
  | some node => rw [← grown.kept _ node before, there]

theorem Overgrown.trans {name : FileName} (first : Overgrown name a b) (second : Overgrown name b c) : Overgrown name a c :=
  ⟨⟨second.home.trans first.home, fun place node there => second.kept place node (first.kept place node there)⟩,
    fun place content there => first.files place content (second.files place content there)⟩

theorem Littered.overgrown {directory : Path} {staged name : FileName} (littered : Littered directory staged a b)
    (other : name ≠ staged) : Overgrown name a b := by
  obtain ⟨above, _, _, absent, differ, _⟩ := littered
  refine ⟨⟨differ.home.symm, fun place node there => ?_⟩, fun place content there => ?_⟩
  · have apart : place ≠ above ++ [staged] := by
      rintro rfl
      rw [absent] at there
      cases there
    rw [← differ.elsewhere place apart, there]
  · have apart : place ++ [name] ≠ above ++ [staged] := fun same => other (List.singleton_inj.1 (List.append_inj_right' same rfl))
    rw [differ.elsewhere _ apart, there]

theorem Littered.rooted {directory : Path} {staged : FileName} (littered : Littered directory staged a b)
    (rooted : a.Rooted) : b.Rooted := by
  obtain ⟨above, _, there, absent, differ, _⟩ := littered
  have still {q : Place} (directory : a.isDirectoryAt q = true) : b.isDirectoryAt q = true := by
    have apart : q ≠ above ++ [staged] := by
      rintro rfl
      simp [isDirectoryAt, absent] at directory
    rwa [isDirectoryAt, ← differ.elsewhere q apart]
  refine ⟨differ.home ▸ still rooted.home, fun place inside => ?_⟩
  by_cases top : place = []
  · subst top
    rfl
  by_cases same : place = above ++ [staged]
  · subst same
    rw [List.dropLast_concat]
    exact still there
  · obtain ⟨node, found⟩ := (Table.mem_keys_iff _ _).1 inside
    have present : a.at? place = some node := by
      rw [differ.elsewhere place same, at?, if_neg top, found]
    exact still (isDirectoryAt_iff.2 (rooted.above_at present))

theorem Grown.make (grown : Grown depth a b) {p : Path} {made : FileTree}
    (bounded : (a.start p).length + FileName.depth p.steps ≤ depth) (accepted : b.makeDirectory p = .ok made) : Grown depth a made := by
  obtain ⟨place, name, parent, plain, absent, rfl⟩ := makeDirectory_eq_ok accepted
  obtain ⟨_, walked, _, last⟩ := parentOf_eq_ok parent
  obtain ⟨front, parts⟩ := List.getLast?_eq_some_iff.1 last
  have short : (place ++ [name]).length ≤ depth := by
    have above := walk_length walked
    have steps : FileName.depth p.steps = FileName.depth p.steps.dropLast + 1 := by simp [FileName.depth, parts, plain]
    rw [grown.toExtends.start] at above
    rw [List.length_append, List.length_singleton]
    omega
  refine ⟨⟨grown.home, ?_⟩, ?_⟩
  · intro other node there
    have apart : place ++ [name] ≠ other := by
      rintro rfl
      rw [grown.kept _ node there] at absent
      cases absent
    rw [at?_put, if_neg apart]
    exact grown.kept other node there
  · intro other missing
    rw [at?_put]
    split
    · rename_i same
      exact .inr ⟨rfl, same ▸ short⟩
    · exact grown.added other missing

theorem Rooted.make (rooted : b.Rooted) {p : Path} {made : FileTree} (accepted : b.makeDirectory p = .ok made) : made.Rooted := by
  obtain ⟨place, name, parent, _, absent, rfl⟩ := makeDirectory_eq_ok accepted
  obtain ⟨_, _, directory, _⟩ := parentOf_eq_ok parent
  have free : b.isDirectoryAt (place ++ [name]) = false := by simp [isDirectoryAt, absent]
  exact rooted.put directory free .directory

end Growing

section Making

theorem spine_above_sublist (p : Path) : p.spine.reverse.tail.reverse.Sublist p.steps := by
  have front : p.spine.reverse.tail.reverse.Sublist p.spine := by
    rw [← List.dropLast_reverse, List.reverse_reverse]
    exact List.dropLast_sublist _
  exact front.trans p.spine_sublist

-- Whatever each made directory keeps holds after all of them.
variable (obstacles : Obstacles) {P : FileTree → Prop} {p : Path}
  (step : ∀ {tree made : FileTree} {q : Path}, P tree → q.isAbsolute = p.isAbsolute → q.steps.Sublist p.steps →
    tree.makeDirectory q = .ok made → P made)
include step

theorem ensureDirectory_keeps {tree : FileTree} (holds : P tree) {q : Path} (side : q.isAbsolute = p.isAbsolute)
    (part : q.steps.Sublist p.steps) : P (tree.ensureDirectory obstacles q).1 := by
  unfold ensureDirectory
  split
  · exact holds
  split
  · rename_i made
    exact step holds side part made
  · exact holds

theorem makeSpine_keeps {names : List FileName} (part : names.reverse.Sublist p.steps) {tree : FileTree} (holds : P tree) :
    P (tree.makeSpine obstacles p.isAbsolute names).1 := by
  induction names generalizing tree with
  | nil => exact holds
  | cons last above ih =>
      have filled : (last :: above).reverse ≠ [] := by simp
      have side := Path.isAbsolute_above part filled
      have steps : (Path.ofSpine p.isAbsolute (last :: above).reverse).steps.Sublist p.steps := by rwa [Path.steps_above part]
      have aboveSteps : above.reverse.Sublist p.steps := by
        refine List.Sublist.trans ?_ part
        simp
      have first {tree : FileTree} (holds : P tree) := ensureDirectory_keeps obstacles step holds side steps
      have ensured := first holds
      simp only [makeSpine]
      split
      · rename_i made missing
        rw [missing] at ensured
        have rest := ih aboveSteps ensured
        split
        · rename_i all
          rw [all] at rest
          exact first rest
        · exact rest
      · exact ensured

theorem makeAll_keeps {tree : FileTree} (holds : P tree) : P (tree.makeAll obstacles p).1 := by
  have first {tree : FileTree} (holds : P tree) := ensureDirectory_keeps obstacles step holds rfl (List.Sublist.refl p.steps)
  unfold makeAll
  split
  · exact holds
  have ensured := first holds
  split
  · rename_i made missing
    rw [missing] at ensured
    have rest := makeSpine_keeps obstacles step (spine_above_sublist p) ensured
    split
    · rename_i all
      rw [all] at rest
      exact first rest
    · exact rest
  · exact ensured

end Making

def reach (tree : FileTree) (p : Path) : Nat := (tree.start p).length + FileName.depth p.steps

theorem makeAll_grown (tree : FileTree) (obstacles : Obstacles) (p : Path) :
    Grown (tree.reach p) tree (tree.makeAll obstacles p).1 := by
  refine makeAll_keeps obstacles (fun grown side part made => grown.make ?_ made) (Grown.refl _ tree)
  rename_i q
  have starts : tree.start q = tree.start p := by rw [FileTree.start, FileTree.start, side]
  have fewer := FileName.depth_sublist part
  rw [starts]
  exact Nat.add_le_add_left fewer _

theorem Rooted.makeAll {tree : FileTree} (rooted : tree.Rooted) (obstacles : Obstacles) (p : Path) :
    (tree.makeAll obstacles p).1.Rooted :=
  makeAll_keeps obstacles (fun rooted _ _ made => rooted.make made) rooted

section Planting

theorem Rooted.publish {tree published : FileTree} (rooted : tree.Rooted) {above : Place} {staged : FileName}
    (file : tree.isDirectoryAt (above ++ [staged]) = false) {p : Path} {content : Content}
    (accepted : tree.publish (above ++ [staged]) p content = .ok published) : published.Rooted := by
  obtain ⟨place, name, parent, _, _, _, free, rfl⟩ := publish_eq_ok accepted
  obtain ⟨_, _, directory, _⟩ := parentOf_eq_ok parent
  have still := isDirectoryAt_remove file
  exact (rooted.remove file).put ((still place).trans directory) ((still _).trans free) _

theorem Rooted.write {tree written : FileTree} (rooted : tree.Rooted) {p : Path} {content : Content}
    (accepted : tree.write p content = .ok written) : written.Rooted := by
  obtain ⟨⟨place, _ | name⟩, parent, kept⟩ := bind_eq_ok_iff.1 accepted
  · cases kept
  simp only at kept
  split at kept
  · cases kept
  split at kept
  · cases kept
  split at kept
  · cases kept
  rename_i free
  cases kept
  obtain ⟨_, _, directory, _⟩ := parentOf_eq_ok parent
  exact rooted.put directory (Bool.eq_false_iff.2 free) _

theorem entries_withHome (home : Place) :
    (withHome home).nodes.entries = (List.range (home.length + 1)).map fun n => (home.take n, Node.directory) := by
  apply Table.entries_ofList
  rw [List.map_map]
  refine List.Nodup.map_on ?_ List.nodup_range
  intro m first n second same
  have lengths := congrArg List.length same
  simp only [Function.comp_apply, List.length_take] at lengths
  have bounds := And.intro (List.mem_range.1 first) (List.mem_range.1 second)
  omega

theorem withHome_rooted (home : Place) : (withHome home).Rooted := by
  have there {n : Nat} (within : n ≤ home.length) : (withHome home).isDirectoryAt (home.take n) = true := by
    rw [isDirectoryAt_iff, at?]
    split
    · rfl
    · rw [Table.get?_eq_some_iff, entries_withHome]
      exact List.mem_map.2 ⟨n, List.mem_range.2 (Nat.lt_succ_of_le within), rfl⟩
  constructor
  · have whole := there (Nat.le_refl home.length)
    rwa [List.take_length] at whole
  · intro place inside
    obtain ⟨entry, listed, rfl⟩ := List.mem_map.1 inside
    rw [entries_withHome] at listed
    obtain ⟨n, within, rfl⟩ := List.mem_map.1 listed
    have bound := List.mem_range.1 within
    have above : (home.take n).dropLast = home.take (n - 1) := by
      rw [List.dropLast_eq_take, List.length_take, List.take_take]
      congr 1
      omega
    rw [above]
    exact there (by omega)

theorem Rooted.plant {tree : FileTree} (rooted : tree.Rooted) (p : Path) (content : Option Content) : (tree.plant p content).Rooted := by
  cases content with
  | none => exact rooted.makeAll _ p
  | some content =>
      have above : (tree.makeSpine {} p.isAbsolute p.spine.reverse.tail).1.Rooted :=
        makeSpine_keeps {} (fun rooted _ _ made => rooted.make made) (spine_above_sublist p) rooted
      unfold FileTree.plant
      dsimp only
      split
      · rename_i planted accepted
        exact above.write accepted
      · exact above

end Planting

section Reading

variable {depth : Nat} {a b : FileTree} {p : Path}

def held (p : Path) : Option Node → Except FileFault String
  | some (.file content) =>
      if p.wantsDirectory then .error .notDirectory
      else match content with
        | .text s => .ok s
        | .undecodable => .error .undecodable
  | some .directory => .error .isDirectory
  | none => .error (if p.wantsDirectory then .notDirectory else .missing)

theorem read_eq (tree : FileTree) (sound : p.defect? = none) :
    tree.read p = (tree.walk (tree.start p) p.steps).bind fun place => held p (tree.at? place) := by
  unfold read resolve
  rw [sound]
  cases tree.walk (tree.start p) p.steps with
  | error fault => rfl
  | ok place =>
      rcases node : tree.at? place with _ | _ | content | _ <;> cases wants : p.wantsDirectory <;>
        simp [isDirectoryAt, node, held, wants, bind, Except.bind]

theorem read_of_defect (tree : FileTree) {fault : FileFault} (refused : p.defect? = some fault) : tree.read p = .error fault := by
  unfold read resolve
  rw [refused]
  rfl

section More

variable (rooted : a.Rooted) (more : Extends a b)
include more

theorem enter_more {place : Place} {node : Node} (present : a.at? place = some node) {name : FileName}
    (found : a.enter place name ≠ .error .missing) : b.enter place name = a.enter place name := by
  have directories : b.isDirectoryAt place = a.isDirectoryAt place := by
    rw [isDirectoryAt, isDirectoryAt, present, more.kept place node present]
  unfold enter at found ⊢
  rw [directories]
  split
  · rfl
  split
  · rfl
  split
  · rfl
  split
  · rfl
  rename_i directory notHere notUp short
  cases next : a.at? (place ++ [name]) with
  | none => simp [directory, notHere, notUp, short, next] at found
  | some other => simp [more.kept _ other next]

theorem walk_kept {place last : Place} {names : List FileName} (walked : a.walk place names = .ok last) :
    b.walk place names = .ok last := by
  have there (q : Place) (present : (a.at? q).isSome = true) : (b.at? q).isSome = true := by
    obtain ⟨node, found⟩ := Option.isSome_iff_exists.1 present
    rw [more.kept q node found]
    rfl
  induction names generalizing place with
  | nil => exact walked
  | cons name rest ih =>
      obtain ⟨next, entered, behind⟩ := walk_cons_eq_ok walked
      have directory := isDirectoryAt_iff.2 (more.kept place _ (isDirectoryAt_iff.1 (enter_eq_ok entered).1))
      rw [walk, enter_other entered directory (there next)]
      exact ih behind

theorem read_kept {s : String} (found : a.read p = .ok s) : b.read p = .ok s := by
  obtain ⟨place, resolved, node⟩ := read_eq_ok found
  obtain ⟨sound, walked⟩ := resolve_eq_ok resolved
  have noSlash : p.wantsDirectory = false := by
    cases wants : p.wantsDirectory with
    | false => rfl
    | true => simp [resolve, sound, walked, wants, isDirectoryAt, node, bind, Except.bind] at resolved
  have still : b.walk (b.start p) p.steps = .ok place := by
    rw [more.start]
    exact walk_kept more walked
  exact read_of_resolve (resolve_of_walk sound still (.inl noSlash)) (more.kept place _ node)

include rooted

-- A walk that fails for another reason fails in the same way.
theorem walk_more {place : Place} {node : Node} (present : a.at? place = some node) {names : List FileName}
    (found : a.walk place names ≠ .error .missing) : b.walk place names = a.walk place names := by
  induction names generalizing place node with
  | nil => rfl
  | cons name rest ih =>
      have step : a.enter place name ≠ .error .missing := by
        intro missing
        rw [walk, missing] at found
        exact found rfl
      rw [walk, walk, enter_more more present step]
      cases entered : a.enter place name with
      | error fault => rfl
      | ok next =>
          obtain ⟨other, there⟩ := present_of_enter rooted entered
          refine ih there ?_
          rw [walk, entered] at found
          exact found

theorem read_more (found : a.read p ≠ .error .missing) : b.read p = a.read p := by
  cases defect : p.defect? with
  | some fault => rw [read_of_defect a defect, read_of_defect b defect]
  | none =>
      rw [read_eq a defect] at found
      rw [read_eq a defect, read_eq b defect, more.start]
      have start := rooted.start p
      have reached : a.walk (a.start p) p.steps ≠ .error .missing := by
        intro missing
        rw [missing] at found
        exact found rfl
      rw [walk_more rooted more start reached]
      cases walked : a.walk (a.start p) p.steps with
      | error fault => rfl
      | ok place =>
          obtain ⟨node, there⟩ := present_of_walk rooted start walked
          show held p (b.at? place) = held p (a.at? place)
          rw [there, more.kept place node there]

end More

theorem walk_file {tree : FileTree} {place : Place} {content : Content} (file : tree.at? place = some (.file content))
    (names : List FileName) : tree.walk place names ≠ .error .missing := by
  cases names with
  | nil => simp [walk]
  | cons name rest => simp [walk, enter, isDirectoryAt, file, Except.bind]

section Missing

variable (rooted : a.Rooted) (grown : Grown depth a b)
include rooted grown

-- New directories are empty, so what was missing below them is still missing.
theorem walk_missing_grown {names : List FileName} (straight : ∀ name ∈ names, name ≠ FileName.up ∧ name.tooLong = false)
    {place : Place} (deep : depth < place.length + FileName.depth names) (directory : b.at? place = some .directory)
    (absent : a.at? place = none ∨ a.walk place names = .error .missing) : b.walk place names = .error .missing := by
  induction names generalizing place with
  | nil =>
      rcases absent with new | walked
      · rcases grown.added place new with missing | ⟨_, within⟩
        · rw [missing] at directory
          cases directory
        · exact absurd deep (Nat.not_lt.2 within)
      · cases walked
  | cons name rest ih =>
      obtain ⟨⟨notUp, short⟩, others⟩ := List.forall_mem_cons.1 straight
      have there := isDirectoryAt_iff.2 directory
      by_cases idle : name = FileName.here
      · subst idle
        rw [walk, enter_here there]
        refine ih others deep directory ?_
        cases before : a.at? place with
        | none => exact .inl rfl
        | some node =>
            have same : a.at? place = some .directory := by rw [before, ← grown.kept place node before, directory]
            rw [before, walk, enter_here (isDirectoryAt_iff.2 same)] at absent
            exact .inr (absent.resolve_left (by simp))
      · have plain : name.isPlain = true := by simp [FileName.isPlain, idle, notUp]
        have deeper : depth < (place ++ [name]).length + FileName.depth rest := by
          have longer : FileName.depth (name :: rest) = FileName.depth rest + 1 := by simp [FileName.depth, plain]
          rw [List.length_append, List.length_singleton]
          omega
        cases next : b.at? (place ++ [name]) with
        | none => simp [walk, enter, there, idle, notUp, short, next, Except.bind]
        | some node =>
            rw [walk, enter_down there plain short (by rw [next]; rfl)]
            cases before : a.at? (place ++ [name]) with
            | none =>
                rcases grown.added _ before with missing | ⟨made, _⟩
                · rw [missing] at next
                  cases next
                · exact ih others deeper made (.inl before)
            | some other =>
                have above := rooted.above_at before
                rw [List.dropLast_concat] at above
                rw [above, walk, enter_down (isDirectoryAt_iff.2 above) plain short (by rw [before]; rfl)] at absent
                have behind : a.walk (place ++ [name]) rest = .error .missing := absent.resolve_left (by simp)
                cases other with
                | directory => exact ih others deeper (grown.kept _ _ before) (.inr behind)
                | file content => exact absurd behind (walk_file before rest)

theorem read_missing_grown (straight : ∀ name ∈ p.steps, name ≠ FileName.up ∧ name.tooLong = false)
    (deep : depth < a.reach p) (absent : a.read p = .error .missing) : b.read p = .error .missing := by
  cases defect : p.defect? with
  | some fault => rw [read_of_defect b defect, ← read_of_defect a defect, absent]
  | none =>
      rw [read_eq a defect] at absent
      have start := rooted.start p
      have walked : a.walk (a.start p) p.steps = .error .missing := by
        cases walked : a.walk (a.start p) p.steps with
        | error fault =>
            rw [walked] at absent
            exact congrArg _ (Except.error.inj absent)
        | ok place =>
            obtain ⟨node, there⟩ := present_of_walk rooted start walked
            rw [walked] at absent
            have nothing : held p (a.at? place) = .error .missing := absent
            rw [there] at nothing
            rcases node with _ | content | _ <;> cases wants : p.wantsDirectory <;> simp [held, wants] at nothing
      rw [read_eq b defect, grown.toExtends.start, walk_missing_grown rooted grown straight deep (grown.kept _ _ start) (.inr walked)]
      rfl

end Missing

theorem read_littered {directory name : Path} {staged : FileName} (isName : name.IsName)
    (littered : Littered directory staged a b) (other : name.bytes ≠ staged) :
    b.read (directory.join name) = a.read (directory.join name) := by
  obtain ⟨place, walked, there, _, differ, _⟩ := littered
  have more := (show Overgrown name.bytes a b from Littered.overgrown ⟨place, walked, there, ‹_›, differ, ‹_›⟩ other).toExtends
  cases defect : (directory.join name).defect? with
  | some fault => rw [read_of_defect a defect, read_of_defect b defect]
  | none =>
      have still : b.walk (b.start directory) directory.steps = .ok place := by
        rw [more.start]
        exact walk_kept more walked
      have directoryStill := isDirectoryAt_iff.2 (more.kept place _ (isDirectoryAt_iff.1 there))
      have apart : place ++ [name.bytes] ≠ place ++ [staged] := fun same => other (List.singleton_inj.1 (List.append_cancel_left same))
      rw [read_join isName defect walked there, read_join isName defect still directoryStill, differ.elsewhere _ apart]

end Reading

end FileTree
end RegionWiring
