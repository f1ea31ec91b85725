import RegionWiring.Proofs.EscapeStates
import RegionWiring.Proofs.LineNumbers

namespace RegionWiring.Properties

namespace Joining

structure Ended (j : Joining) : Prop where
  pending : Even (trailingBackslashes j.pending)
  finished : ∀ line ∈ j.finished, Even (trailingBackslashes line.2)

section Parts

theorem dropLast_ended {line : List Char} (continued : continues line = true) : Even (trailingBackslashes line.dropLast) := by
  rw [even_iff]
  rcases List.eq_nil_or_concat' line with rfl | ⟨front, c, rfl⟩
  · rfl
  · have backslash : c = '\\' := by
      by_contra other
      simp [continues, trailingBackslashes, other] at continued
    rw [backslash, continues_lone] at continued
    rw [List.dropLast_concat]
    simpa using continued

theorem part_ended (line : List Char) : Even (trailingBackslashes (part line)) := by
  unfold part
  split
  · rename_i continued
    exact dropLast_ended continued
  · rename_i ends
    exact (even_iff line).2 (Bool.eq_false_iff.2 ends)

theorem append_part_ended {pending : List Char} (ended : Even (trailingBackslashes pending)) (line : List Char) :
    Even (trailingBackslashes (pending ++ part line)) := by
  rw [even_iff, continues_append_ended ended, ← even_iff]
  exact part_ended line

theorem scan_parts (lines : List (List Char × Nat)) :
    scan false (lines.flatMap fun line => part line.1) = lines.flatMap fun line => scan false (part line.1) := by
  induction lines with
  | nil => rfl
  | cons line rest ih => rw [List.flatMap_cons, List.flatMap_cons, scan_append_ended (part_ended line.1), ih]

end Parts

section Running

theorem Ended.initial : initial.Ended := ⟨Even.zero, nofun⟩

theorem Ended.advance {j : Joining} (ended : j.Ended) (number : Nat) (raw : List Char) : (j.advance number raw).Ended := by
  by_cases skipped : j.pending = [] ∧ isComment (Text.trimStart raw) = true
  · rw [advance_skipped skipped.1 skipped.2]
    exact ended
  · have taken := (not_and_or.1 skipped).imp_right Bool.eq_false_iff.2
    have longer := append_part_ended ended.pending (Text.trimStart raw)
    cases ends : continues (Text.trimStart raw) with
    | true =>
        rw [part, if_pos ends] at longer
        rw [advance_taken_on taken ends]
        exact ⟨longer, ended.finished⟩
    | false =>
        rw [part, if_neg (Bool.eq_false_iff.1 ends)] at longer
        rw [advance_ended taken ends]
        refine ⟨Even.zero, fun line inside => ?_⟩
        rcases List.mem_append.1 inside with old | new
        · exact ended.finished line old
        · rw [List.mem_singleton.1 new]
          exact longer

theorem Ended.run {j : Joining} (ended : j.Ended) (number : Nat) (raws : List (List Char)) : (j.run number raws).Ended := by
  induction raws generalizing j number with
  | nil => exact ended
  | cons raw rest ih => exact ih (ended.advance number raw) (number + 1)

theorem Ended.finish {j : Joining} (ended : j.Ended) : ∀ line ∈ j.finish, Even (trailingBackslashes line.2) := by
  intro line inside
  unfold Joining.finish at inside
  split at inside
  · exact ended.finished line inside
  · rcases List.mem_append.1 inside with old | new
    · exact ended.finished line old
    · rw [List.mem_singleton.1 new]
      exact ended.pending

end Running

section Own

theorem take_span (lines : List (List Char)) :
    lines.take (span lines) = lines.takeWhile continues ++ (lines.dropWhile continues).take 1 := by
  induction lines with
  | nil => rfl
  | cons line rest ih =>
      cases ends : continues line with
      | true => simpa [span, ends] using ih
      | false => simp [span, ends]

theorem parts_of_mem_blocks {absent : List Char → Bool} {lines : List (List Char × Nat)} {block : Nat × List Char}
    (found : block ∈ blocks absent lines) : ∃ own, own <:+: lines ∧ own.head?.map Prod.snd = some block.1 ∧
      block.2 = own.flatMap fun line => part line.1 := by
  induction lines using blocks.induct absent with
  | case1 =>
      rw [blocks] at found
      cases found
  | case2 line rest skipped ih =>
      rw [blocks_absent skipped] at found
      obtain ⟨own, inside, parts⟩ := ih found
      exact ⟨own, inside.trans (List.suffix_cons line rest).isInfix, parts⟩
  | case3 line rest begun ih =>
      rw [blocks_begun (Bool.eq_false_iff.2 begun)] at found
      rcases List.mem_cons.1 found with rfl | later
      · refine ⟨(line :: rest).take (span ((line :: rest).map Prod.fst)), (List.take_prefix _ _).isInfix, rfl, ?_⟩
        rw [joined, ← take_span, ← List.map_take, List.flatMap_map]
      · obtain ⟨own, inside, parts⟩ := ih later
        exact ⟨own, inside.trans (List.drop_suffix _ _).isInfix, parts⟩

end Own
end Joining

-- No escape is open where one line is joined to the next.
theorem escapes_within_lines (text : String) :
    (∀ count,
      let pending := (Joining.initial.run 1 ((Text.lines text.toList).take count)).pending
      Even (trailingBackslashes pending) ∧ ∀ next, scan false (pending ++ next) = scan false pending ++ scan false next) ∧
    ∀ line ∈ logicalLines text, Even (trailingBackslashes line.2) ∧ Sign.text (Sign.read line.2) = line.2 ∧
      ∃ own, own <:+: physicalLines text ∧ own.head?.map Prod.snd = some line.1 ∧
        (line.2 = own.flatMap fun physical => Joining.part physical.1) ∧
        scan false line.2 = own.flatMap fun physical => scan false (Joining.part physical.1) := by
  constructor
  · intro count
    have ended := Joining.Ended.initial.run 1 ((Text.lines text.toList).take count)
    exact ⟨ended.pending, scan_append_ended ended.pending⟩
  · intro line inside
    have ended := (Joining.Ended.initial.run 1 (Text.lines text.toList)).finish line inside
    rw [logicalLines_eq_blocks] at inside
    obtain ⟨own, among, first, parts⟩ := Joining.parts_of_mem_blocks inside
    refine ⟨ended, text_read_ended ended, own, among, first, parts, ?_⟩
    rw [parts, Joining.scan_parts]

-- Three backslashes at the end of a line add two.
theorem escapes_within_lines_backslashes :
    let text := "k=\\\\\\\n\\\\\\\n\\,v\n"
    let pending := (Joining.initial.run 1 ((Text.lines text.toList).take 2)).pending
    let line := (1, "k=\\\\\\\\\\,v".toList)
    pending = "k=\\\\\\\\".toList ∧ Even (trailingBackslashes pending) ∧
    scan false (pending ++ "\\,v".toList) = scan false pending ++ [('\\', false), (',', true), ('v', false)] ∧
    line ∈ logicalLines text ∧ Even (trailingBackslashes line.2) ∧ Sign.text (Sign.read line.2) = line.2 := by
  intro text pending line
  obtain ⟨points, lines⟩ := escapes_within_lines text
  obtain ⟨pendingEnded, apart⟩ := points 2
  have listed : line ∈ logicalLines text := by decide +kernel
  obtain ⟨lineEnded, whole, -⟩ := lines line listed
  exact ⟨by decide +kernel, pendingEnded, apart "\\,v".toList, listed, lineEnded, whole⟩

end RegionWiring.Properties
