import RegionWiring.Proofs.Lines

namespace RegionWiring.Properties

namespace Joining

-- A continuing backslash is no part of the text.
def part (line : List Char) : List Char := if continues line then line.dropLast else line

def joined (lines : List (List Char)) : List Char :=
  (lines.takeWhile continues ++ (lines.dropWhile continues).take 1).flatMap part

def behind (lines : List (List Char)) : List (List Char) := (lines.dropWhile continues).drop 1

section Blocks

variable {line : List Char} {rest : List (List Char)}

theorem joined_continued (continued : continues line = true) : joined (line :: rest) = line.dropLast ++ joined rest := by
  simp [joined, part, continued]

theorem behind_continued (continued : continues line = true) : behind (line :: rest) = behind rest := by
  simp [behind, continued]

theorem joined_ended (ended : continues line = false) : joined (line :: rest) = line := by
  simp [joined, part, ended]

theorem behind_ended (ended : continues line = false) : behind (line :: rest) = rest := by
  simp [behind, ended]

theorem length_behind (lines : List (List Char)) : (behind lines).length ≤ lines.length :=
  (List.drop_sublist 1 _).length_le.trans (List.dropWhile_sublist _).length_le

theorem length_behind_cons (line : List Char) (rest : List (List Char)) : (behind (line :: rest)).length ≤ rest.length := by
  cases ends : continues line with
  | true =>
      rw [behind_continued ends]
      exact length_behind rest
  | false => rw [behind_ended ends]

end Blocks

def assembled (absent : List Char → Bool) : List (List Char) → List (List Char)
  | [] => []
  | line :: rest =>
      if absent line then assembled absent rest
      else joined (line :: rest) :: assembled absent (behind (line :: rest))
termination_by lines => lines.length
decreasing_by
  · simp
  · exact Nat.lt_succ_of_le (length_behind_cons line rest)

def span (lines : List (List Char)) : Nat := (lines.takeWhile continues).length + 1

def following (lines : List (List Char × Nat)) : List (List Char × Nat) := lines.drop (span (lines.map Prod.fst))

def blocks (absent : List Char → Bool) : List (List Char × Nat) → List (Nat × List Char)
  | [] => []
  | line :: rest =>
      if absent line.1 then blocks absent rest
      else (line.2, joined ((line :: rest).map Prod.fst)) :: blocks absent (following (line :: rest))
termination_by lines => lines.length
decreasing_by
  · simp
  · simp only [following, span, List.length_drop, List.length_cons]
    omega

-- A backslash alone leaves nothing pending.
def passedOver (line : List Char) : Bool := isComment line || line == ['\\']

-- What is still to come, given the pending text.
def owed (pending : List Char) (lines : List (List Char)) : List (List Char) :=
  if pending = [] then assembled passedOver lines else (pending ++ joined lines) :: assembled passedOver (behind lines)

def owing (pending : List Char) (start : Nat) (lines : List (List Char × Nat)) : List (Nat × List Char) :=
  if pending = [] then blocks passedOver lines
  else (start, pending ++ joined (lines.map Prod.fst)) :: blocks passedOver (following lines)

end Joining

def documentedLines (text : String) : List (List Char) :=
  Joining.assembled Joining.isComment ((Text.lines text.toList).map Text.trimStart)

namespace Joining

section Assembling

variable {absent : List Char → Bool} {line : List Char} {rest : List (List Char)}

theorem assembled_absent (skipped : absent line = true) : assembled absent (line :: rest) = assembled absent rest := by
  rw [assembled, if_pos skipped]

theorem assembled_begun (begun : absent line = false) :
    assembled absent (line :: rest) = joined (line :: rest) :: assembled absent (behind (line :: rest)) := by
  rw [assembled, if_neg (Bool.eq_false_iff.1 begun)]

end Assembling

section Starting

variable {line : List Char}

theorem dropLast_of_continued (continued : continues line = true) (something : line ≠ ['\\']) : line.dropLast ≠ [] := by
  cases line with
  | nil => cases continued
  | cons c tail =>
      cases tail with
      | nil =>
          have other : c ≠ '\\' := fun same => something (congrArg (fun c => [c]) same)
          simp [continues, trailingBackslashes, other] at continued
      | cons d later => simp

theorem isComment_joined (something : line ≠ ['\\']) (rest : List (List Char)) :
    isComment (joined (line :: rest)) = isComment line := by
  cases ends : continues line with
  | false => rw [joined_ended ends]
  | true =>
      have left := dropLast_of_continued ends something
      rw [joined_continued ends]
      cases line with
      | nil => cases ends
      | cons c tail =>
          cases tail with
          | nil => exact absurd rfl left
          | cons d later => rfl

end Starting

section Numbering

variable {absent : List Char → Bool} {line : List Char × Nat} {rest : List (List Char × Nat)}

theorem blocks_absent (skipped : absent line.1 = true) : blocks absent (line :: rest) = blocks absent rest := by
  rw [blocks, if_pos skipped]

theorem blocks_begun (begun : absent line.1 = false) : blocks absent (line :: rest) =
    (line.2, joined ((line :: rest).map Prod.fst)) :: blocks absent (following (line :: rest)) := by
  rw [blocks, if_neg (Bool.eq_false_iff.1 begun)]

theorem following_continued (continued : continues line.1 = true) : following (line :: rest) = following rest := by
  simp [following, span, continued]

theorem following_ended (ended : continues line.1 = false) : following (line :: rest) = rest := by
  simp [following, span, ended]

theorem following_texts (lines : List (List Char × Nat)) : (following lines).map Prod.fst = behind (lines.map Prod.fst) := by
  induction lines with
  | nil => rfl
  | cons line rest ih =>
      rw [List.map_cons]
      cases ends : continues line.1 with
      | true => rw [following_continued ends, behind_continued ends, ih]
      | false => rw [following_ended ends, behind_ended ends]

theorem blocks_texts (absent : List Char → Bool) (lines : List (List Char × Nat)) :
    (blocks absent lines).map Prod.snd = assembled absent (lines.map Prod.fst) := by
  induction lines using blocks.induct absent with
  | case1 => rw [blocks, List.map_nil, List.map_nil, assembled]
  | case2 line rest skipped ih => rw [blocks_absent skipped, ih, List.map_cons, assembled_absent skipped]
  | case3 line rest begun ih =>
      have begins := Bool.eq_false_iff.2 begun
      rw [blocks_begun begins, List.map_cons, ih, following_texts, List.map_cons, assembled_begun begins]

end Numbering

section Owing

variable {j : Joining} {raw : List Char}

theorem advance_skipped (idle : j.pending = []) (skipped : isComment (Text.trimStart raw) = true) (number : Nat) :
    j.advance number raw = j := by
  simp [advance, idle, skipped]

def begunOn (j : Joining) (number : Nat) : Nat := if j.pending = [] then number else j.start

theorem advance_taken_on (taken : j.pending ≠ [] ∨ isComment (Text.trimStart raw) = false)
    (continued : continues (Text.trimStart raw) = true) (number : Nat) :
    j.advance number raw = ⟨j.finished, j.pending ++ (Text.trimStart raw).dropLast, j.begunOn number⟩ := by
  rcases taken with something | shown
  · simp [advance, begunOn, something, continued]
  · simp [advance, begunOn, shown, continued]

theorem advance_ended (taken : j.pending ≠ [] ∨ isComment (Text.trimStart raw) = false)
    (ended : continues (Text.trimStart raw) = false) (number : Nat) :
    j.advance number raw =
      ⟨j.finished ++ [(j.begunOn number, j.pending ++ Text.trimStart raw)], [], j.begunOn number⟩ := by
  rcases taken with something | shown
  · simp [advance, begunOn, something, ended]
  · simp [advance, begunOn, shown, ended]

theorem owing_idle (start : Nat) (lines : List (List Char × Nat)) : owing [] start lines = blocks passedOver lines := if_pos rfl

theorem owing_pending {pending : List Char} (something : pending ≠ []) (start : Nat) (lines : List (List Char × Nat)) :
    owing pending start lines = (start, pending ++ joined (lines.map Prod.fst)) :: blocks passedOver (following lines) :=
  if_neg something

-- One more line leaves finished and owed together unchanged.
theorem owing_advance (j : Joining) (number : Nat) (raw : List Char) (lines : List (List Char × Nat)) :
    (j.advance number raw).finished ++ owing (j.advance number raw).pending (j.advance number raw).start lines =
      j.finished ++ owing j.pending j.start ((Text.trimStart raw, number) :: lines) := by
  by_cases idle : j.pending = []
  · have begun : j.begunOn number = number := if_pos idle
    cases passed : passedOver (Text.trimStart raw) with
    | true =>
        rw [idle, owing_idle, blocks_absent passed]
        rcases Bool.or_eq_true_iff.1 passed with comment | alone
        · rw [advance_skipped idle comment, idle, owing_idle]
        · have lone : Text.trimStart raw = ['\\'] := by simpa using alone
          rw [advance_taken_on (.inr (by rw [lone]; rfl)) (by rw [lone]; rfl), idle, lone]
          exact congrArg _ (owing_idle _ lines)
    | false =>
        obtain ⟨shown, notLone⟩ := Bool.or_eq_false_iff.1 passed
        rw [idle, owing_idle, blocks_begun passed, List.map_cons]
        cases ends : continues (Text.trimStart raw) with
        | true =>
            have left := dropLast_of_continued ends (by simpa using notLone)
            rw [advance_taken_on (.inr shown) ends, idle, List.nil_append, owing_pending left, begun, joined_continued ends,
              following_continued ends]
        | false =>
            rw [advance_ended (.inr shown) ends, owing_idle, begun, idle, joined_ended ends, following_ended ends, List.append_assoc]
            rfl
  · have begun : j.begunOn number = j.start := if_neg idle
    rw [owing_pending idle, List.map_cons]
    cases ends : continues (Text.trimStart raw) with
    | true =>
        have longer : j.pending ++ (Text.trimStart raw).dropLast ≠ [] := List.append_ne_nil_of_left_ne_nil idle _
        rw [advance_taken_on (.inl idle) ends, owing_pending longer, begun, joined_continued ends, following_continued ends,
          List.append_assoc]
    | false =>
        rw [advance_ended (.inl idle) ends, owing_idle, begun, joined_ended ends, following_ended ends, List.append_assoc]
        rfl

theorem finish_owing (j : Joining) : j.finish = j.finished ++ owing j.pending j.start [] := by
  unfold finish
  split
  · rename_i idle
    simp [idle, owing_idle, blocks]
  · rename_i something
    simp [owing_pending something, joined, following, blocks]

theorem run_owing (j : Joining) (number : Nat) (raws : List (List Char)) :
    (j.run number raws).finish = j.finished ++ owing j.pending j.start ((raws.map Text.trimStart).zipIdx number) := by
  induction raws generalizing j number with
  | nil => exact finish_owing j
  | cons raw rest ih =>
      rw [run, ih, owing_advance]
      rfl

theorem owing_texts (pending : List Char) (start : Nat) (lines : List (List Char × Nat)) :
    (owing pending start lines).map Prod.snd = owed pending (lines.map Prod.fst) := by
  unfold owing owed
  split
  · exact blocks_texts passedOver lines
  · rw [List.map_cons, blocks_texts, following_texts]

theorem owed_idle (lines : List (List Char)) : owed [] lines = assembled passedOver lines := if_pos rfl

theorem run_owed (j : Joining) (number : Nat) (raws : List (List Char)) :
    (j.run number raws).finish.map Prod.snd = j.finished.map Prod.snd ++ owed j.pending (raws.map Text.trimStart) := by
  rw [run_owing, List.map_append, owing_texts, List.zipIdx_map_fst]

end Owing

section Comparing

theorem uncommented_assembled (lines : List (List Char)) : ∀ line ∈ assembled passedOver lines, isComment line = false := by
  induction lines using assembled.induct passedOver with
  | case1 =>
      rw [assembled]
      exact fun line inside => nomatch inside
  | case2 line rest passed ih =>
      rw [assembled_absent passed]
      exact ih
  | case3 line rest begun ih =>
      have begins := Bool.eq_false_iff.2 begun
      obtain ⟨shown, notLone⟩ := Bool.or_eq_false_iff.1 begins
      rw [assembled_begun begins]
      refine List.forall_mem_cons.2 ⟨?_, ih⟩
      rw [isComment_joined (by simpa using notLone)]
      exact shown

theorem assembled_joined {lines : List (List Char)} (shown : isComment (joined lines) = false) :
    assembled passedOver lines = joined lines :: assembled passedOver (behind lines) := by
  induction lines with
  | nil => cases shown
  | cons line rest ih =>
      by_cases lone : line = ['\\']
      · have continued : continues line = true := by rw [lone]; rfl
        have passed : passedOver line = true := by rw [lone]; rfl
        have same : joined (line :: rest) = joined rest := by
          rw [joined_continued continued, lone]
          rfl
        rw [same] at shown ⊢
        rw [assembled_absent passed, behind_continued continued]
        exact ih shown
      · rw [isComment_joined lone] at shown
        exact assembled_begun (Bool.or_eq_false_iff.2 ⟨shown, by simpa using lone⟩)

theorem assembled_eq_iff (lines : List (List Char)) :
    assembled passedOver lines = assembled isComment lines ↔ ∀ line ∈ assembled isComment lines, isComment line = false := by
  constructor
  · intro same
    rw [← same]
    exact uncommented_assembled lines
  · intro shown
    induction lines using assembled.induct isComment with
    | case1 => rw [assembled, assembled]
    | case2 line rest comment ih =>
        have passed : passedOver line = true := Bool.or_eq_true_iff.2 (.inl comment)
        rw [assembled_absent comment] at shown ⊢
        rw [assembled_absent passed]
        exact ih shown
    | case3 line rest begun ih =>
        rw [assembled_begun (Bool.eq_false_iff.2 begun)] at shown ⊢
        obtain ⟨first, others⟩ := List.forall_mem_cons.1 shown
        rw [assembled_joined first, ih others]

end Comparing

end Joining

-- The two differ only where a documented line is empty or looks like a comment.
theorem logicalLines_eq_documented_iff (text : String) :
    (logicalLines text).map Prod.snd =
        Joining.assembled Joining.passedOver ((Text.lines text.toList).map Text.trimStart) ∧
    ((logicalLines text).map Prod.snd = documentedLines text ↔
      ∀ line ∈ documentedLines text, Joining.isComment line = false) := by
  have read : (logicalLines text).map Prod.snd =
      Joining.assembled Joining.passedOver ((Text.lines text.toList).map Text.trimStart) :=
    (Joining.run_owed .initial 1 _).trans (Joining.owed_idle _)
  refine ⟨read, ?_⟩
  rw [read, documentedLines]
  exact Joining.assembled_eq_iff _

-- Skipped as a comment, though the backslash continues into it.
theorem continued_comment_skipped :
    documentedLines "\\\n#k=v\n" = ["#k=v".toList] ∧ logicalLines "\\\n#k=v\n" = [] ∧
    Entry.read "d" 1 "#k=v".toList = .ok ⟨"#k", ["v"], 1⟩ ∧ readDocument "d" "\\\n#k=v\n" = ⟨[], []⟩ := by
  have none : logicalLines "\\\n#k=v\n" = [] := by decide +kernel
  refine ⟨by decide +kernel, none, by decide +kernel, ?_⟩
  rw [readDocument, none]
  rfl

end RegionWiring.Properties
