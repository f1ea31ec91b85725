import Mathlib.Data.List.TakeWhile
import RegionWiring.Properties.Document

namespace RegionWiring

namespace Text

section Trimming

def Blanks (cs : List Char) : Prop := ∀ c ∈ cs, isBlank c = true

variable {blanks : List Char} (blank : Blanks blanks)

theorem trimEnd_parts (cs : List Char) : ∃ blanks, Blanks blanks ∧ cs = trimEnd cs ++ blanks := by
  refine ⟨(cs.reverse.takeWhile isBlank).reverse, ?_, ?_⟩
  · intro c inside
    have taken := List.all_takeWhile (p := isBlank) (l := cs.reverse)
    exact List.all_eq_true.1 taken c (List.mem_reverse.1 inside)
  · rw [trimEnd, ← List.reverse_append, List.takeWhile_append_dropWhile, List.reverse_reverse]

theorem trimStart_parts (cs : List Char) : ∃ blanks, Blanks blanks ∧ cs = blanks ++ trimStart cs :=
  ⟨cs.takeWhile isBlank, fun c inside => List.all_eq_true.1 List.all_takeWhile c inside, List.takeWhile_append_dropWhile.symm⟩

include blank in
theorem trimEnd_append (cs : List Char) : trimEnd (cs ++ blanks) = trimEnd cs := by
  have turned : ∀ c ∈ blanks.reverse, isBlank c = true := fun c inside => blank c (List.mem_reverse.1 inside)
  rw [trimEnd, List.reverse_append, List.dropWhile_append_of_pos turned, trimEnd]

include blank in
theorem trim_append (cs : List Char) : trim (cs ++ blanks) = trim cs := by
  have none : trimStart blanks = [] := List.dropWhile_eq_nil_iff.2 blank
  rw [trim, trim, trimStart, List.dropWhile_append]
  split
  · rename_i all
    have empty : trimStart cs = [] := List.isEmpty_iff.1 all
    rw [empty]
    exact congrArg trimEnd none
  · exact trimEnd_append blank (trimStart cs)

theorem trimStart_eq_self {cs : List Char} (first : ∀ c, cs.head? = some c → isBlank c = false) : trimStart cs = cs := by
  cases cs with
  | nil => rfl
  | cons c rest => simp [trimStart, first c rfl]

theorem trimEnd_eq_self {cs : List Char} (last : ∀ c, cs.getLast? = some c → isBlank c = false) : trimEnd cs = cs := by
  have turned : trimStart cs.reverse = cs.reverse := trimStart_eq_self fun c found => last c (by simpa using found)
  rw [trimEnd]
  exact (congrArg List.reverse turned).trans (List.reverse_reverse cs)

theorem trim_eq_self {cs : List Char} (first : ∀ c, cs.head? = some c → isBlank c = false)
    (last : ∀ c, cs.getLast? = some c → isBlank c = false) : trim cs = cs := by
  rw [trim, trimStart_eq_self first, trimEnd_eq_self last]

theorem trim_visible {cs : List Char} (visible : ∀ c ∈ cs, isBlank c = false) : trim cs = cs :=
  trim_eq_self (fun c first => visible c (List.mem_of_head? first)) (fun c last => visible c (List.mem_of_getLast? last))

theorem head_of_trim {cs : List Char} {c : Char} (found : (trim cs).head? = some c) : isBlank c = false := by
  have kept : ∃ behind, trimStart cs = trim cs ++ behind := (trimEnd_parts (trimStart cs)).imp fun _ parts => parts.2
  obtain ⟨behind, split⟩ := kept
  have first : (trimStart cs).head? = some c := by rw [split, List.head?_append, found]; rfl
  have dropped := List.head?_dropWhile_not isBlank cs
  rw [trimStart] at first
  rwa [first] at dropped

theorem head_of_trimmed {cs : List Char} {c : Char} (trimmed : trim cs = cs) (found : cs.head? = some c) : isBlank c = false :=
  head_of_trim (trimmed ▸ found)

theorem last_of_trim {cs : List Char} {c : Char} (found : (trim cs).getLast? = some c) : isBlank c = false := by
  have dropped := List.head?_dropWhile_not isBlank (trimStart cs).reverse
  rw [trim, trimEnd, List.getLast?_reverse] at found
  rwa [found] at dropped

theorem trim_trim (cs : List Char) : trim (trim cs) = trim cs :=
  trim_eq_self (fun _ first => head_of_trim first) (fun _ last => last_of_trim last)

theorem mem_of_mem_trim {cs : List Char} {c : Char} (inside : c ∈ trim cs) : c ∈ cs := by
  obtain ⟨_, _, ends⟩ := trimEnd_parts (trimStart cs)
  obtain ⟨_, _, starts⟩ := trimStart_parts cs
  rw [starts, ends]
  exact List.mem_append_right _ (List.mem_append_left _ inside)

end Trimming

section Cutting

theorem lines_append (a b : List Char) : lines (a ++ '\n' :: b) = (a.splitOn '\n').map dropReturn ++ lines b := by
  have pieces : (a ++ '\n' :: b).splitOn '\n' = a.splitOn '\n' ++ b.splitOn '\n' := List.splitOn_append_cons_self ..
  have something : b.splitOn '\n' ≠ [] := List.splitOn_ne_nil '\n' b
  have last : (a.splitOn '\n' ++ b.splitOn '\n').getLast? = (b.splitOn '\n').getLast? := by
    rw [List.getLast?_append]
    cases found : (b.splitOn '\n').getLast? with
    | none => exact absurd (List.getLast?_eq_none_iff.1 found) something
    | some piece => rfl
  rw [lines, lines, pieces, last, List.dropLast_append_of_ne_nil something, List.map_append, List.append_assoc]

theorem lines_cons {line : List Char} (whole : '\n' ∉ line) (returns : line.getLast? ≠ some '\r') (rest : List Char) :
    lines (line ++ '\n' :: rest) = line :: lines rest := by
  rw [lines_append, List.splitOn_eq_singleton whole, List.map_singleton, dropReturn, if_neg returns]
  rfl

def document (items : List (List Char)) : List Char := items.flatMap (· ++ ['\n'])

theorem lines_document {items : List (List Char)} (whole : ∀ line ∈ items, '\n' ∉ line ∧ line.getLast? ≠ some '\r') :
    lines (document items) = items := by
  induction items with
  | nil => rfl
  | cons line rest ih =>
      obtain ⟨first, others⟩ := List.forall_mem_cons.1 whole
      have parts : document (line :: rest) = line ++ '\n' :: document rest := by simp [document]
      rw [parts, lines_cons first.1 first.2, ih others]

end Cutting
end Text

namespace Properties

section Continuing

theorem trailingBackslashes_append_blanks {blanks : List Char} (blank : Text.Blanks blanks) (cs : List Char) :
    trailingBackslashes (blanks ++ cs) = trailingBackslashes cs := by
  have none : blanks.reverse.takeWhile (· == '\\') = [] := by
    cases turned : blanks.reverse with
    | nil => rfl
    | cons c rest =>
        have white := blank c (List.mem_reverse.1 (turned ▸ List.mem_cons_self))
        have other : c ≠ '\\' := by rintro rfl; revert white; decide
        simp [other]
  rw [trailingBackslashes, trailingBackslashes, List.reverse_append, List.takeWhile_append, none]
  split
  · rename_i all
    rw [List.append_nil, all]
  · rfl

theorem continues_trimStart (line : List Char) : continues (Text.trimStart line) = continues line := by
  obtain ⟨blanks, blank, parts⟩ := Text.trimStart_parts line
  rw [continues, continues, parts, trailingBackslashes_append_blanks blank, ← parts]

end Continuing

namespace Joining

def entryLines (number : Nat) (raws : List (List Char)) : List (Nat × List Char) :=
  (raws.zipIdx number).filterMap fun raw =>
    if isComment (Text.trimStart raw.1) then none else some (raw.2, Text.trimStart raw.1)

-- Nothing becomes pending, so each line stands for itself.
theorem run_unbroken (finished : List (Nat × List Char)) (start number : Nat) {raws : List (List Char)}
    (unbroken : ∀ raw ∈ raws, continues raw = false) :
    ((Joining.mk finished [] start).run number raws).finish = finished ++ entryLines number raws := by
  induction raws generalizing finished start number with
  | nil => simp [run, finish, entryLines]
  | cons raw rest ih =>
      obtain ⟨ends, others⟩ := List.forall_mem_cons.1 unbroken
      rw [← continues_trimStart] at ends
      by_cases comment : isComment (Text.trimStart raw) = true
      · have skipped : (Joining.mk finished [] start).advance number raw = ⟨finished, [], start⟩ := by simp [advance, comment]
        rw [run, skipped, ih finished start (number + 1) others]
        simp [entryLines, comment]
      · have kept : (Joining.mk finished [] start).advance number raw = ⟨finished ++ [(number, Text.trimStart raw)], [], number⟩ := by
          simp [advance, comment, ends]
        rw [run, kept, ih _ number (number + 1) others]
        simp [entryLines, comment]

end Joining

theorem logicalLines_unbroken {text : String} (unbroken : ∀ line ∈ Text.lines text.toList, continues line = false) :
    logicalLines text = Joining.entryLines 1 (Text.lines text.toList) :=
  Joining.run_unbroken [] 0 1 unbroken

end Properties
end RegionWiring
