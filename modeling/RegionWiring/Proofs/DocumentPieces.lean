import Mathlib.Data.List.Induction
import RegionWiring.Proofs.Lines

namespace RegionWiring

namespace Reported

deriving instance DecidableEq for Reported

variable {α β : Type}

def followedBy (first next : Reported (List α)) : Reported (List α) :=
  ⟨first.value ++ next.value, first.warnings ++ next.warnings⟩

theorem collect_append (f : α → Except Warning β) (front back : List α) :
    collect f (front ++ back) = (collect f front).followedBy (collect f back) := by
  induction front with
  | nil => rfl
  | cons a rest ih => cases read : f a <;> simp [collect, read, ih, followedBy]

end Reported

def ConfigFault.moved (lines : Nat) : ConfigFault → ConfigFault
  | .malformedEntry source line reason => .malformedEntry source (line + lines) reason
  | fault => fault

def Warning.moved (lines : Nat) : Warning → Warning
  | .skippedEntry cause => .skippedEntry (cause.moved lines)
  | warning => warning

namespace Properties

def Entry.moved (lines : Nat) (entry : Entry) : Entry := { entry with line := entry.line + lines }

def movedReading (lines : Nat) (reading : Reported (List Entry)) : Reported (List Entry) :=
  ⟨reading.value.map (Entry.moved lines), reading.warnings.map (Warning.moved lines)⟩

def movedLine (lines : Nat) (line : Nat × List Char) : Nat × List Char := (line.1 + lines, line.2)

def lineCount (text : String) : Nat := (Text.lines text.toList).length

def Ended (cs : List Char) : Prop := cs = [] ∨ cs.getLast? = some '\n'

instance (cs : List Char) : Decidable (Ended cs) := inferInstanceAs (Decidable (_ ∨ _))

def joiningAfter (cs : List Char) : Joining := Joining.initial.run 1 (Text.lines cs)

structure Whole (text : String) : Prop where
  ended : Ended text.toList
  settled : (joiningAfter text.toList).pending = []

instance (text : String) : Decidable (Whole text) :=
  decidable_of_iff (Ended text.toList ∧ (joiningAfter text.toList).pending = [])
    ⟨fun ⟨ended, settled⟩ => ⟨ended, settled⟩, fun ⟨ended, settled⟩ => ⟨ended, settled⟩⟩

section Lines

variable {a b : List Char} (ended : Ended a)
include ended

theorem lines_of_ended (b : List Char) : Text.lines (a ++ b) = Text.lines a ++ Text.lines b := by
  rcases ended with empty | last
  · rw [empty]
    rfl
  · obtain ⟨front, parts⟩ := List.getLast?_eq_some_iff.1 last
    have alone := Text.lines_append front []
    have nothing : Text.lines [] = [] := rfl
    rw [nothing, List.append_nil] at alone
    rw [parts, alone, List.append_assoc, List.singleton_append, Text.lines_append]

theorem Ended.append (next : Ended b) : Ended (a ++ b) := by
  rcases next with empty | last
  · rwa [empty, List.append_nil]
  · apply Or.inr
    rw [List.getLast?_append, last]
    rfl

end Lines

namespace Joining

-- The state `k` is `j` some lines further down, with other lines finished before.
structure Behind (before : List (Nat × List Char)) (lines : Nat) (j k : Joining) : Prop where
  finished : k.finished = before ++ j.finished.map (movedLine lines)
  pending : k.pending = j.pending
  -- The start is used only where something is pending.
  start : j.pending ≠ [] → k.start = j.start + lines

section Behind

variable {before : List (Nat × List Char)} {lines : Nat} {j k : Joining} (same : Behind before lines j k)
include same

theorem Behind.advance (number : Nat) (raw : List Char) :
    Behind before lines (j.advance number raw) (k.advance (number + lines) raw) := by
  have started : (if k.pending = [] then number + lines else k.start) =
      (if j.pending = [] then number else j.start) + lines := by
    rw [same.pending]
    split
    · rfl
    · rename_i something
      exact same.start something
  unfold Joining.advance
  dsimp only
  rw [started, same.pending]
  split
  · exact same
  · split
    · exact ⟨same.finished, rfl, fun _ => rfl⟩
    · refine ⟨?_, rfl, fun something => absurd rfl something⟩
      simp [same.finished, movedLine]

theorem Behind.run (number : Nat) (raws : List (List Char)) :
    Behind before lines (j.run number raws) (k.run (number + lines) raws) := by
  induction raws generalizing j k number with
  | nil => exact same
  | cons raw rest ih =>
      have next := ih (same.advance number raw) (number + 1)
      rw [Nat.add_right_comm] at next
      exact next

theorem Behind.finish : k.finish = before ++ j.finish.map (movedLine lines) := by
  unfold Joining.finish
  rw [same.pending]
  split
  · exact same.finished
  · rename_i something
    simp [same.finished, same.start something, movedLine]

end Behind

theorem run_append (j : Joining) (number : Nat) (front back : List (List Char)) :
    j.run number (front ++ back) = (j.run number front).run (number + front.length) back := by
  induction front generalizing j number with
  | nil => rfl
  | cons raw rest ih =>
      rw [List.cons_append, run, run, ih, List.length_cons, Nat.add_assoc, Nat.add_comm 1]

theorem advance_continued (j : Joining) (number : Nat) (raw : List Char) (continued : (j.advance number raw).pending ≠ []) :
    (j.advance number raw).finished = j.finished := by
  unfold advance at continued ⊢
  dsimp only at continued ⊢
  split
  · rfl
  · split
    · rfl
    · rename_i skipped ends
      rw [if_neg skipped, if_neg ends] at continued
      exact absurd rfl continued

theorem length_finished_advance (j : Joining) (number : Nat) (raw : List Char) :
    (j.advance number raw).finished.length ≤ j.finished.length + 1 := by
  unfold advance
  dsimp only
  split
  · exact Nat.le_succ _
  · split
    · exact Nat.le_succ _
    · simp

theorem length_finish_advance (j : Joining) (number : Nat) (raw : List Char) :
    (j.advance number raw).finish.length ≤ j.finished.length + 1 := by
  unfold finish
  split
  · exact length_finished_advance j number raw
  · rename_i continued
    rw [advance_continued j number raw continued]
    simp

end Joining

section Pieces

variable {a : String} (whole : Whole a) (b : String)
include whole

theorem joiningAfter_behind :
    Joining.Behind (logicalLines a) (lineCount a) (joiningAfter b.toList) (joiningAfter (a ++ b).toList) := by
  have gathered : logicalLines a = (joiningAfter a.toList).finished := if_pos whole.settled
  have opening : Joining.Behind (logicalLines a) (lineCount a) .initial (joiningAfter a.toList) := by
    refine ⟨?_, whole.settled, fun something => absurd rfl something⟩
    rw [gathered]
    exact (List.append_nil _).symm
  rw [joiningAfter, joiningAfter, String.toList_append, lines_of_ended whole.ended, Joining.run_append]
  exact opening.run 1 (Text.lines b.toList)

theorem logicalLines_append : logicalLines (a ++ b) = logicalLines a ++ (logicalLines b).map (movedLine (lineCount a)) :=
  (joiningAfter_behind whole b).finish

theorem lineCount_append : lineCount (a ++ b) = lineCount a + lineCount b := by
  rw [lineCount, String.toList_append, lines_of_ended whole.ended, List.length_append]
  rfl

theorem Whole.append {b : String} (other : Whole b) : Whole (a ++ b) := by
  constructor
  · rw [String.toList_append]
    exact whole.ended.append other.ended
  · exact (joiningAfter_behind whole b).pending.trans other.settled

end Pieces

section Moving

variable (source : String) (lines : Nat)

theorem readLine_moved (line : Nat × List Char) : readLine source (movedLine lines line) =
    ((readLine source line).mapError (Warning.moved lines)).map (Entry.moved lines) := by
  unfold readLine Entry.read Entry.ofChars movedLine
  cases cutUnescaped '=' line.2 with
  | none => rfl
  | some parts =>
      dsimp only
      split <;> rfl

theorem collect_moved (items : List (Nat × List Char)) :
    Reported.collect (readLine source) (items.map (movedLine lines)) =
      movedReading lines (Reported.collect (readLine source) items) := by
  induction items with
  | nil => rfl
  | cons line rest ih =>
      rw [List.map_cons, Reported.collect, Reported.collect, ih, readLine_moved]
      cases readLine source line <;> rfl

theorem readDocument_append {a : String} (whole : Whole a) (b : String) : readDocument source (a ++ b) =
    (readDocument source a).followedBy (movedReading (lineCount a) (readDocument source b)) := by
  rw [readDocument, logicalLines_append whole, Reported.collect_append, collect_moved]
  rfl

end Moving

section Falling

theorem exists_lines (cs : List Char) : ∃ items last, cs = Text.document items ++ last ∧
    (∀ line ∈ items, '\n' ∉ line) ∧ '\n' ∉ last := by
  induction cs with
  | nil => exact ⟨[], [], rfl, by simp, by simp⟩
  | cons c rest ih =>
      obtain ⟨items, last, parts, each, final⟩ := ih
      by_cases lineEnd : c = '\n'
      · refine ⟨[] :: items, last, ?_, by simpa using each, final⟩
        rw [parts, lineEnd]
        rfl
      · have other : '\n' ≠ c := Ne.symm lineEnd
        cases items with
        | nil => exact ⟨[], c :: last, by rw [parts]; rfl, by simp, by simp [other, final]⟩
        | cons line later =>
            obtain ⟨first, others⟩ := List.forall_mem_cons.1 each
            refine ⟨(c :: line) :: later, last, by rw [parts]; rfl, ?_, final⟩
            exact List.forall_mem_cons.2 ⟨by simp [other, first], others⟩

theorem lines_line {line : List Char} (unbroken : '\n' ∉ line) : Text.lines (line ++ ['\n']) = [Text.dropReturn line] := by
  rw [Text.lines_append, List.splitOn_eq_singleton unbroken]
  rfl

theorem lines_last {last : List Char} (unbroken : '\n' ∉ last) (something : last ≠ []) : Text.lines last = [last] := by
  rw [Text.lines, List.splitOn_eq_singleton unbroken]
  simp [something]

theorem joiningAfter_line {read more raw : List Char} (ended : Ended read) (single : Text.lines more = [raw]) :
    joiningAfter (read ++ more) = (joiningAfter read).advance (1 + (Text.lines read).length) raw := by
  rw [joiningAfter, lines_of_ended ended, single, Joining.run_append]
  rfl

structure Small (cs : List Char) : Prop where
  ended : Ended cs
  settled : (joiningAfter cs).pending = []
  single : (joiningAfter cs).finished.length ≤ 1

-- By induction from the end: one more line settles what was open, or leaves it open.
theorem small_pieces {items : List (List Char)} (each : ∀ line ∈ items, '\n' ∉ line) :
    ∃ (pieces : List (List Char)) (left : List Char), Text.document items = pieces.flatten ++ left ∧
      (∀ piece ∈ pieces, Small piece) ∧ Ended left ∧ (joiningAfter left).finished = [] := by
  induction items using List.reverseRecOn with
  | nil => exact ⟨[], [], rfl, by simp, .inl rfl, rfl⟩
  | append_singleton items line ih =>
      obtain ⟨before, own⟩ := List.forall_mem_append.1 each
      obtain ⟨pieces, left, parts, small, ended, unfinished⟩ := ih before
      have unbroken : '\n' ∉ line := own line List.mem_cons_self
      have longer : Text.document (items ++ [line]) = pieces.flatten ++ (left ++ (line ++ ['\n'])) := by
        rw [← List.append_assoc, ← parts]
        simp [Text.document]
      have next := joiningAfter_line ended (lines_line unbroken)
      have nextEnded : Ended (left ++ (line ++ ['\n'])) := ended.append (.inr (by simp))
      by_cases settled : (joiningAfter (left ++ (line ++ ['\n']))).pending = []
      · refine ⟨pieces ++ [left ++ (line ++ ['\n'])], [], by simp [longer], ?_, .inl rfl, rfl⟩
        have single := Joining.length_finished_advance (joiningAfter left) (1 + (Text.lines left).length) (Text.dropReturn line)
        rw [← next, unfinished] at single
        exact List.forall_mem_append.2 ⟨small, List.forall_mem_singleton.2 ⟨nextEnded, settled, single⟩⟩
      · refine ⟨pieces, left ++ (line ++ ['\n']), longer, small, nextEnded, ?_⟩
        rw [next] at settled ⊢
        rw [Joining.advance_continued _ _ _ settled, unfinished]

theorem length_finish_last {left last : List Char} (ended : Ended left) (unfinished : (joiningAfter left).finished = [])
    (unbroken : '\n' ∉ last) : (joiningAfter (left ++ last)).finish.length ≤ 1 := by
  by_cases empty : last = []
  · rw [empty, List.append_nil, Joining.finish]
    split <;> simp [unfinished]
  · have atMost := Joining.length_finish_advance (joiningAfter left) (1 + (Text.lines left).length) last
    rwa [← joiningAfter_line ended (lines_last unbroken empty), unfinished] at atMost

theorem exists_pieces (text : String) : ∃ (pieces : List String) (rest : String),
    text.toList = pieces.flatMap String.toList ++ rest.toList ∧
    (∀ piece ∈ pieces, Whole piece ∧ (logicalLines piece).length ≤ 1) ∧ (logicalLines rest).length ≤ 1 := by
  obtain ⟨items, last, cut, each, final⟩ := exists_lines text.toList
  obtain ⟨pieces, left, parts, small, ended, unfinished⟩ := small_pieces each
  refine ⟨pieces.map String.ofList, String.ofList (left ++ last), ?_, ?_, ?_⟩
  · rw [cut, parts, List.flatMap_map, String.toList_ofList, List.append_assoc]
    simp [List.flatMap_def]
  · refine List.forall_mem_map.2 fun piece inside => ?_
    have fine := small piece inside
    have gathered : logicalLines (String.ofList piece) = (joiningAfter piece).finished := by
      rw [logicalLines, String.toList_ofList]
      exact if_pos fine.settled
    refine ⟨⟨?_, ?_⟩, ?_⟩
    · rw [String.toList_ofList]
      exact fine.ended
    · rw [String.toList_ofList]
      exact fine.settled
    · rw [gathered]
      exact fine.single
  · rw [logicalLines, String.toList_ofList]
    exact length_finish_last ended unfinished final

end Falling

-- A document is read piece by piece; only the line numbers depend on what stands in front.
theorem readDocument_piecewise (source : String) :
    (∀ before behind : String, Whole before → readDocument source (before ++ behind) =
      (readDocument source before).followedBy (movedReading (lineCount before) (readDocument source behind))) ∧
    (∀ before piece behind : String, Whole before → Whole piece → readDocument source (before ++ piece ++ behind) =
      ((readDocument source before).followedBy (movedReading (lineCount before) (readDocument source piece))).followedBy
        (movedReading (lineCount before + lineCount piece) (readDocument source behind))) ∧
    ∀ text : String, ∃ (pieces : List String) (rest : String), text.toList = pieces.flatMap String.toList ++ rest.toList ∧
      (∀ piece ∈ pieces, Whole piece ∧ (logicalLines piece).length ≤ 1) ∧ (logicalLines rest).length ≤ 1 := by
  refine ⟨?_, ?_, exists_pieces⟩
  · intro before behind whole
    exact readDocument_append source whole behind
  · intro before piece behind whole own
    rw [readDocument_append source (whole.append own), readDocument_append source whole, lineCount_append whole]

-- Both line ends, a comment that ends in a backslash, an entry on two lines, a last backslash.
def severalLines : String := "# no\\\r\n\n k = v,\\\r\n  w\\\\\r\nnothing here\n\\\n"

def unfinishedLines : String := "=x\r\n!\\\nlast = a,\\\n#b\\"

theorem readDocument_piecewise_several :
    Whole severalLines ∧ lineCount severalLines = 6 ∧
    readDocument "d" severalLines = ⟨[⟨"k", ["v", "w\\"], 3⟩], [.skippedEntry (.malformedEntry "d" 5 "missing '='")]⟩ ∧
    readDocument "d" unfinishedLines = ⟨[⟨"last", ["a", "#b"], 3⟩], [.skippedEntry (.malformedEntry "d" 1 "empty key")]⟩ ∧
    readDocument "d" (severalLines ++ unfinishedLines) = ⟨[⟨"k", ["v", "w\\"], 3⟩, ⟨"last", ["a", "#b"], 9⟩],
      [.skippedEntry (.malformedEntry "d" 5 "missing '='"), .skippedEntry (.malformedEntry "d" 7 "empty key")]⟩ := by
  have whole : Whole severalLines := by decide +kernel
  have count : lineCount severalLines = 6 := by decide +kernel
  have first : readDocument "d" severalLines =
      ⟨[⟨"k", ["v", "w\\"], 3⟩], [.skippedEntry (.malformedEntry "d" 5 "missing '='")]⟩ := by decide +kernel
  have second : readDocument "d" unfinishedLines =
      ⟨[⟨"last", ["a", "#b"], 3⟩], [.skippedEntry (.malformedEntry "d" 1 "empty key")]⟩ := by decide +kernel
  refine ⟨whole, count, first, second, ?_⟩
  rw [(readDocument_piecewise "d").1 severalLines unfinishedLines whole, first, second, count]
  rfl

end Properties
end RegionWiring
