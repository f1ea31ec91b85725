import RegionWiring.Files.Path
import RegionWiring.Proofs.Collections

namespace RegionWiring
namespace Path

structure IsName (p : Path) : Prop where
  filled : p.bytes ≠ []
  single : FileName.slash ∉ p.bytes
  plain : FileName.isPlain p.bytes = true
  short : FileName.tooLong p.bytes = false

theorem steps_single {name : Path} (single : FileName.slash ∉ name.bytes) (filled : name.bytes ≠ []) :
    name.steps = [name.bytes] := by
  simp [steps, List.splitOn_eq_singleton single, filled]

theorem not_mem_of_mem_splitOn {a : UInt8} {bytes piece : List UInt8} (inside : piece ∈ bytes.splitOn a) : a ∉ piece := by
  induction bytes generalizing piece with
  | nil =>
      rw [List.splitOn_nil, List.mem_singleton] at inside
      simp [inside]
  | cons b bytes ih =>
      rw [List.splitOn_cons_eq_if_modifyHead] at inside
      split at inside
      · rcases List.mem_cons.1 inside with rfl | later
        · exact List.not_mem_nil
        · exact ih later
      · rename_i other
        obtain ⟨first, rest, parts⟩ := List.exists_cons_of_ne_nil (List.splitOn_ne_nil a bytes)
        rw [parts] at ih
        rw [parts, List.modifyHead_cons] at inside
        rcases List.mem_cons.1 inside with rfl | later
        · have different : a ≠ b := fun same => other (beq_iff_eq.2 same.symm)
          simp [different, ih List.mem_cons_self]
        · exact ih (List.mem_cons_of_mem _ later)

theorem filled_of_mem_steps {p : Path} {name : FileName} (inside : name ∈ p.steps) : name ≠ [] :=
  of_decide_eq_true (List.mem_filter.1 inside).2

theorem single_of_mem_steps {p : Path} {name : FileName} (inside : name ∈ p.steps) : FileName.slash ∉ name :=
  not_mem_of_mem_splitOn (List.mem_filter.1 inside).1

theorem defect_eq_none_iff (p : Path) : p.defect? = none ↔ 0 ∉ p.bytes ∧ p.bytes ≠ [] ∧ p.bytes.length < 4096 := by
  unfold defect?
  split
  · rename_i nul
    simp [List.contains_iff_mem.1 nul]
  · rename_i noNul
    have absent : 0 ∉ p.bytes := fun inside => noNul (List.contains_iff_mem.2 inside)
    split
    · rename_i empty
      simp [empty]
    · rename_i filled
      split
      · rename_i long
        simp [absent, filled, Nat.not_lt.2 long]
      · rename_i short
        simp [absent, filled, Nat.not_le.1 short]

section Documents

variable {name : Path} (isName : name.IsName) (directory : Path)
include isName

theorem isAbsolute_name : name.isAbsolute = false := by
  obtain ⟨bytes⟩ := name
  cases bytes with
  | nil => rfl
  | cons b bytes =>
      have other : b ≠ FileName.slash := fun same => isName.single (same ▸ List.mem_cons_self)
      simpa [isAbsolute] using other

theorem join_cases : (directory.bytes = [] ∧ directory.join name = name) ∨
    (∃ front, directory.bytes = front ++ [FileName.slash] ∧
      (directory.join name).bytes = front ++ FileName.slash :: name.bytes) ∨
    (directory.bytes ≠ [] ∧ (directory.join name).bytes = directory.bytes ++ FileName.slash :: name.bytes) := by
  unfold join
  rw [isAbsolute_name isName, Bool.false_or]
  split
  · rename_i empty
    exact .inl ⟨of_decide_eq_true empty, rfl⟩
  · rename_i filled
    split
    · rename_i wants
      obtain ⟨front, parts⟩ := List.getLast?_eq_some_iff.1 (beq_iff_eq.1 wants)
      exact .inr (.inl ⟨front, parts, by simp [parts]⟩)
    · exact .inr (.inr ⟨of_decide_eq_false (Bool.eq_false_iff.2 filled), rfl⟩)

theorem steps_join : (directory.join name).steps = directory.steps ++ [name.bytes] := by
  have last : (name.bytes.splitOn FileName.slash).filter (· ≠ []) = [name.bytes] := steps_single isName.single isName.filled
  rcases join_cases isName directory with ⟨empty, same⟩ | ⟨front, parts, bytes⟩ | ⟨_, bytes⟩
  · rw [same, steps_single isName.single isName.filled]
    simp [steps, empty]
  · simp only [steps, bytes, parts, List.splitOn_append_cons_self, List.filter_append, last]
    simp
  · simp only [steps, bytes, List.splitOn_append_cons_self, List.filter_append, last]

theorem isAbsolute_join : (directory.join name).isAbsolute = directory.isAbsolute := by
  rcases join_cases isName directory with ⟨empty, same⟩ | ⟨front, parts, bytes⟩ | ⟨filled, bytes⟩
  · rw [same, isAbsolute_name isName]
    simp [isAbsolute, empty]
  · cases front <;> simp [isAbsolute, bytes, parts]
  · obtain ⟨b, rest, parts⟩ := List.exists_cons_of_ne_nil filled
    simp [isAbsolute, bytes, parts]

omit isName in
theorem bytes_join : ∃ front, ∀ other : Path, other.IsName → (directory.join other).bytes = front ++ other.bytes := by
  by_cases empty : directory.bytes = []
  · exact ⟨[], fun other _ => by simp [join, empty]⟩
  · by_cases wants : directory.wantsDirectory = true
    · exact ⟨directory.bytes, fun other isName => by simp [join, isAbsolute_name isName, empty, wants]⟩
    · exact ⟨directory.bytes ++ [FileName.slash], fun other isName => by simp [join, isAbsolute_name isName, empty, wants]⟩

theorem join_suffix : name.bytes <:+ (directory.join name).bytes := by
  obtain ⟨front, bytes⟩ := bytes_join directory
  exact ⟨front, (bytes name isName).symm⟩

theorem wantsDirectory_join : (directory.join name).wantsDirectory = false := by
  obtain ⟨front, last, parts⟩ := List.eq_nil_or_concat name.bytes |>.resolve_left isName.filled
  have other : last ≠ FileName.slash := fun same => isName.single (by simp [parts, same])
  obtain ⟨before, whole⟩ := join_suffix isName directory
  rw [parts, List.concat_eq_append, ← List.append_assoc] at whole
  rw [wantsDirectory, ← whole, List.getLast?_concat]
  simpa using other

theorem defect_join_other {other : Path} (alsoName : other.IsName) (noNul : 0 ∉ other.bytes)
    (shorter : other.bytes.length ≤ name.bytes.length) (sound : (directory.join name).defect? = none) :
    (directory.join other).defect? = none := by
  obtain ⟨front, bytes⟩ := bytes_join directory
  rw [defect_eq_none_iff, bytes name isName, List.mem_append, List.length_append] at sound
  rw [defect_eq_none_iff, bytes other alsoName, List.mem_append, List.length_append]
  obtain ⟨absent, _, short⟩ := sound
  exact ⟨not_or.2 ⟨(not_or.1 absent).1, noNul⟩, List.append_ne_nil_of_right_ne_nil _ alsoName.filled, by omega⟩

theorem defect_of_join (sound : (directory.join name).defect? = none) :
    directory.bytes = [] ∨ directory.defect? = none := by
  obtain ⟨noNul, _, short⟩ := (defect_eq_none_iff _).1 sound
  rcases join_cases isName directory with ⟨empty, _⟩ | ⟨front, parts, bytes⟩ | ⟨filled, bytes⟩
  · exact .inl empty
  · have noNulFront : 0 ∉ front ++ [FileName.slash] := by
      intro inside
      apply noNul
      rw [bytes, List.append_cons]
      exact List.mem_append_left _ inside
    rw [bytes, List.append_cons, List.length_append] at short
    exact .inr ((defect_eq_none_iff _).2 ⟨parts ▸ noNulFront, by simp [parts], by rw [parts]; omega⟩)
  · rw [bytes] at noNul short
    rw [List.length_append] at short
    exact .inr ((defect_eq_none_iff _).2 ⟨fun inside => noNul (List.mem_append_left _ inside), filled, by omega⟩)

end Documents

section Spines

def room : List FileName → Nat
  | [] => 0
  | name :: rest => name.length + 1 + room rest

theorem room_intercalate (names : List FileName) (filled : names ≠ []) :
    (List.intercalate [FileName.slash] names).length + 1 = room names := by
  induction names with
  | nil => exact absurd rfl filled
  | cons name names ih =>
      cases names with
      | nil => simp [room]
      | cons next names =>
          have later := ih (List.cons_ne_nil _ _)
          rw [List.intercalate_cons_cons]
          rw [room, ← later, List.length_append, List.length_append, List.length_singleton]
          omega

theorem room_sublist {first second : List FileName} (part : first.Sublist second) : room first ≤ room second := by
  induction part with
  | slnil => exact Nat.le_refl _
  | cons name _ ih => rw [room]; omega
  | cons_cons name _ ih => rw [room, room]; omega

theorem room_steps (p : Path) : (if p.isAbsolute then 1 else 0) + room p.steps ≤ p.bytes.length + 1 := by
  have whole : room (p.bytes.splitOn FileName.slash) = p.bytes.length + 1 := by
    rw [← room_intercalate _ (List.splitOn_ne_nil _ _), List.intercalate_splitOn]
  rw [← whole]
  split
  · rename_i absolute
    obtain ⟨rest, bytes⟩ := List.head?_eq_some_iff.1 (beq_iff_eq.1 absolute)
    have pieces : p.bytes.splitOn FileName.slash = [] :: rest.splitOn FileName.slash := by
      simp [bytes, List.splitOn_cons_eq_if_modifyHead]
    have counted : p.steps = (rest.splitOn FileName.slash).filter (· ≠ []) := by simp [steps, pieces]
    have fewer := room_sublist (List.filter_sublist (p := fun name => decide (name ≠ [])) (l := rest.splitOn FileName.slash))
    rw [counted, pieces]
    rw [room, List.length_nil]
    omega
  · have fewer : room p.steps ≤ room (p.bytes.splitOn FileName.slash) := room_sublist List.filter_sublist
    omega

theorem spine_sublist (p : Path) : p.spine.Sublist p.steps := by
  unfold spine
  split
  · exact List.nil_sublist _
  · rename_i first rest parts
    rw [parts]
    split
    · exact .cons _ List.filter_sublist
    · exact .cons_cons _ List.filter_sublist

theorem steps_ofSpine (absolute : Bool) {names : List FileName} (filled : ∀ name ∈ names, name ≠ [])
    (single : ∀ name ∈ names, FileName.slash ∉ name) : (ofSpine absolute names).steps = names := by
  have kept : names.filter (· ≠ []) = names := List.filter_eq_self.2 fun name inside => decide_eq_true (filled name inside)
  have pieces : ((List.intercalate [FileName.slash] names).splitOn FileName.slash).filter (· ≠ []) = names := by
    cases names with
    | nil => rfl
    | cons name names => rw [List.splitOn_intercalate _ single (List.cons_ne_nil _ _), kept]
  cases absolute with
  | false => exact pieces
  | true =>
      have front : (ofSpine true names).steps =
          ((List.intercalate [FileName.slash] names).splitOn FileName.slash).filter (· ≠ []) := by
        simp [steps, ofSpine, List.splitOn_cons_eq_if_modifyHead]
      rw [front, pieces]

theorem mem_intercalate_of_mem {b : UInt8} {name : FileName} {names : List FileName} (inNames : name ∈ names)
    (inside : b ∈ name) : b ∈ List.intercalate [FileName.slash] names := by
  induction names with
  | nil => cases inNames
  | cons first names ih =>
      cases names with
      | nil => simpa [List.mem_singleton.1 inNames] using inside
      | cons next names =>
          rw [List.intercalate_cons_cons, List.append_assoc, List.mem_append, List.mem_append]
          rcases List.mem_cons.1 inNames with rfl | later
          · exact .inl inside
          · exact .inr (.inr (ih later))

theorem mem_of_mem_steps {p : Path} {name : FileName} {b : UInt8} (inSteps : name ∈ p.steps) (inside : b ∈ name) :
    b ∈ p.bytes := by
  have whole := mem_intercalate_of_mem (List.mem_filter.1 inSteps).1 inside
  rwa [List.intercalate_splitOn] at whole

variable {p : Path} {front : List FileName} (within : front.Sublist p.steps) (present : front ≠ [])
include within

theorem steps_above : (ofSpine p.isAbsolute front).steps = front :=
  steps_ofSpine _ (fun _ inside => filled_of_mem_steps (within.subset inside))
    (fun _ inside => single_of_mem_steps (within.subset inside))

include present

theorem isAbsolute_above : (ofSpine p.isAbsolute front).isAbsolute = p.isAbsolute := by
  cases p.isAbsolute with
  | true => rfl
  | false =>
      obtain ⟨name, names, parts⟩ := List.exists_cons_of_ne_nil present
      have inSteps : name ∈ p.steps := within.subset (by simp [parts])
      obtain ⟨b, bytes, head⟩ := List.exists_cons_of_ne_nil (filled_of_mem_steps inSteps)
      have other : b ≠ FileName.slash := fun same => single_of_mem_steps inSteps (by simp [head, same])
      cases names <;> simpa [isAbsolute, ofSpine, parts, head] using other

theorem defect_above (sound : p.defect? = none) : (ofSpine p.isAbsolute front).defect? = none := by
  obtain ⟨noNul, _, short⟩ := (defect_eq_none_iff p).1 sound
  have sized := room_intercalate front present
  have fewer := room_sublist within
  have whole := room_steps p
  obtain ⟨name, names, parts⟩ := List.exists_cons_of_ne_nil present
  have inSteps : name ∈ p.steps := within.subset (by simp [parts])
  have noNulAbove : 0 ∉ List.intercalate [FileName.slash] front := by
    intro inside
    rcases mem_intercalate inside with separator | ⟨other, inFront, inOther⟩
    · exact absurd separator (by decide)
    · exact noNul (mem_of_mem_steps (within.subset inFront) inOther)
  have filled : List.intercalate [FileName.slash] front ≠ [] := by
    obtain ⟨b, bytes, head⟩ := List.exists_cons_of_ne_nil (filled_of_mem_steps inSteps)
    cases names <;> simp [parts, head]
  rw [defect_eq_none_iff]
  cases absolute : p.isAbsolute with
  | true =>
      simp only [absolute, if_true] at whole
      have noSlash : (0 : UInt8) ≠ FileName.slash := by decide
      exact ⟨by simp [ofSpine, noSlash, noNulAbove], by simp [ofSpine],
        by simp only [ofSpine, if_true, List.length_cons]; omega⟩
  | false =>
      exact ⟨by simpa [ofSpine] using noNulAbove, by simpa [ofSpine] using filled,
        by simp only [ofSpine, Bool.false_eq_true, if_false]; omega⟩

end Spines

end Path
end RegionWiring
