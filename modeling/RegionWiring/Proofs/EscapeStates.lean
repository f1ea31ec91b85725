import Mathlib.Algebra.Group.Nat.Even
import RegionWiring.Proofs.EntryReading

namespace RegionWiring.Properties

-- A backslash escapes unless it is escaped.
def escapes (escaped : Bool) (c : Char) : Bool := !escaped && c == '\\'

def scan (escaped : Bool) : List Char → List (Char × Bool)
  | [] => []
  | c :: rest => (c, escaped) :: scan (escapes escaped c) rest

def scannedPieces (separator : Char) (cs : List Char) : List (List Char) :=
  ((scan false cs).splitOn (separator, false)).map fun piece => piece.map Prod.fst

-- No piece holds a plain separator, and only the last may end in an open escape.
structure Pieces (separator : Char) (cs : List Char) (pieces : List (List Char)) : Prop where
  something : pieces ≠ []
  joined : [separator].intercalate pieces = cs
  unseparated : ∀ piece ∈ pieces, (separator, false) ∉ scan false piece
  ended : ∀ piece ∈ pieces.dropLast, Even (trailingBackslashes piece)

section Scanning

theorem scan_characters (escaped : Bool) (cs : List Char) : (scan escaped cs).map Prod.fst = cs := by
  induction cs generalizing escaped with
  | nil => rfl
  | cons c rest ih => exact congrArg (List.cons c) (ih _)

theorem scan_append (escaped : Bool) (front back : List Char) :
    scan escaped (front ++ back) = scan escaped front ++ scan (front.foldl escapes escaped) back := by
  induction front generalizing escaped with
  | nil => rfl
  | cons c rest ih => exact congrArg (List.cons (c, escaped)) (ih _)

theorem escapes_plain {c : Char} (other : c ≠ '\\') (escaped : Bool) : escapes escaped c = false := by simp [escapes, other]

theorem scan_plain {c : Char} (other : c ≠ '\\') (rest : List Char) : scan false (c :: rest) = (c, false) :: scan false rest := by
  rw [scan, escapes_plain other]

theorem scan_escaped (c : Char) (rest : List Char) :
    scan false ('\\' :: c :: rest) = ('\\', false) :: (c, true) :: scan false rest := rfl

-- By induction from the end, where the backslashes are counted.
theorem foldl_escapes (cs : List Char) : cs.foldl escapes false = continues cs := by
  induction cs using List.reverseRecOn with
  | nil => rfl
  | append_singleton front c ih =>
      rw [List.foldl_append, ih]
      by_cases backslash : c = '\\'
      · subst backslash
        rw [continues_lone]
        exact Bool.and_true _
      · have ended : continues (front ++ [c]) = false := by simp [continues, trailingBackslashes, backslash]
        rw [ended]
        exact escapes_plain backslash _

theorem even_iff (cs : List Char) : Even (trailingBackslashes cs) ↔ continues cs = false := by
  rw [Nat.even_iff, continues]
  simp

section Ended

variable {front : List Char} (ended : Even (trailingBackslashes front)) (back : List Char)
include ended

theorem foldl_escapes_ended : front.foldl escapes false = false := (foldl_escapes front).trans ((even_iff front).1 ended)

theorem scan_append_ended : scan false (front ++ back) = scan false front ++ scan false back := by
  rw [scan_append, foldl_escapes_ended ended]

theorem continues_append_ended : continues (front ++ back) = continues back := by
  rw [← foldl_escapes, List.foldl_append, foldl_escapes_ended ended, foldl_escapes]

theorem text_read_ended : Sign.text (Sign.read front) = front := by
  have whole := text_read front
  rwa [(even_iff front).1 ended, append_loneEnd_false] at whole

end Ended
end Scanning

section Cutting

variable {separator : Char} (other : separator ≠ '\\')
include other

theorem lacks_read_iff (cs : List Char) : Sign.Lacks separator (Sign.read cs) ↔ (separator, false) ∉ scan false cs := by
  fun_induction Sign.read cs with
  | case1 => simp [Sign.Lacks, scan]
  | case2 => simpa [Sign.Lacks, scan] using other
  | case3 c rest ih =>
      rw [scan_escaped, Sign.Lacks, List.forall_mem_cons]
      simp [other, ← ih, Sign.Lacks]
  | case4 c rest lone pair ih =>
      rw [scan_plain (not_escaping lone pair), Sign.Lacks, List.forall_mem_cons]
      simp [← ih, Sign.Lacks, eq_comm]

theorem cutUnescaped_eq_none_iff {cs : List Char} : cutUnescaped separator cs = none ↔ (separator, false) ∉ scan false cs := by
  rw [← lacks_read_iff other]
  constructor
  · intro none
    rcases cut_cases separator (Sign.read cs) with ⟨free, _⟩ | ⟨before, after, parts, free, _, _⟩
    · exact free
    · rw [cutUnescaped_read other parts free] at none
      cases none
  · intro free
    have none := cutUnescaped_free (lacks_read cs) free (continues cs)
    rwa [text_read] at none

theorem cutUnescaped_eq_some_iff {cs before after : List Char} : cutUnescaped separator cs = some (before, after) ↔
    cs = before ++ separator :: after ∧ (separator, false) ∉ scan false before ∧ Even (trailingBackslashes before) := by
  constructor
  · intro found
    rcases cut_cases separator (Sign.read cs) with ⟨free, _⟩ | ⟨front, back, parts, free, _, _⟩
    · rw [(cutUnescaped_eq_none_iff other).2 ((lacks_read_iff other cs).1 free)] at found
      cases found
    · have proper : Sign.Lacks '\\' front := (List.forall_mem_append.1 (parts ▸ lacks_read cs)).1
      have unseparated := (cutUnescaped_eq_none_iff other).1 (cutUnescaped_text_end proper free)
      rw [cutUnescaped_read other parts free] at found
      cases found
      refine ⟨?_, unseparated, (even_iff _).2 (continues_text proper)⟩
      calc cs = Sign.text (Sign.read cs) ++ loneEnd (continues cs) := (text_read cs).symm
        _ = Sign.text front ++ separator :: (Sign.text back ++ loneEnd (continues cs)) := by
          rw [parts, Sign.text_append, List.append_assoc]
          rfl
  · rintro ⟨rfl, unseparated, ended⟩
    have cut := cutUnescaped_text_separator (lacks_read before) ((lacks_read_iff other before).2 unseparated) other after
    rwa [text_read_ended ended] at cut

end Cutting

section Splitting

variable {separator : Char} {cs : List Char}

theorem Pieces.single_iff {piece : List Char} :
    Pieces separator cs [piece] ↔ cs = piece ∧ (separator, false) ∉ scan false piece := by
  constructor
  · intro pieces
    exact ⟨pieces.joined.symm.trans (List.intercalate_singleton ..), pieces.unseparated piece List.mem_cons_self⟩
  · rintro ⟨rfl, unseparated⟩
    exact ⟨List.cons_ne_nil _ _, List.intercalate_singleton .., List.forall_mem_singleton.2 unseparated, nofun⟩

theorem Pieces.cons_iff {piece next : List Char} {rest : List (List Char)} :
    Pieces separator cs (piece :: next :: rest) ↔ ∃ after, cs = piece ++ separator :: after ∧
      ((separator, false) ∉ scan false piece ∧ Even (trailingBackslashes piece)) ∧ Pieces separator after (next :: rest) := by
  have joined : [separator].intercalate (piece :: next :: rest) = piece ++ separator :: [separator].intercalate (next :: rest) := by
    rw [List.intercalate_cons_cons, List.append_assoc]
    rfl
  constructor
  · rintro ⟨-, same, unseparated, ended⟩
    obtain ⟨firstWhole, othersWhole⟩ := List.forall_mem_cons.1 unseparated
    obtain ⟨firstEnded, othersEnded⟩ := List.forall_mem_cons.1 ended
    exact ⟨_, same.symm.trans joined, ⟨firstWhole, firstEnded⟩, List.cons_ne_nil _ _, rfl, othersWhole, othersEnded⟩
  · rintro ⟨after, parts, ⟨firstWhole, firstEnded⟩, -, same, othersWhole, othersEnded⟩
    refine ⟨List.cons_ne_nil _ _, ?_, List.forall_mem_cons.2 ⟨firstWhole, othersWhole⟩,
      List.forall_mem_cons.2 ⟨firstEnded, othersEnded⟩⟩
    rw [joined, same, parts]

theorem splitUnescaped_ne_nil (separator : Char) (cs : List Char) : splitUnescaped separator cs ≠ [] := by
  cases found : cutUnescaped separator cs with
  | none =>
      rw [splitUnescaped_whole _ found]
      exact List.cons_ne_nil _ _
  | some parts =>
      rw [splitUnescaped_cut _ found]
      exact List.cons_ne_nil _ _

variable (other : separator ≠ '\\')
include other

theorem splitUnescaped_pieces (cs : List Char) : Pieces separator cs (splitUnescaped separator cs) := by
  induction cs using splitUnescaped.induct separator with
  | case1 cs none =>
      rw [splitUnescaped_whole _ none]
      exact Pieces.single_iff.2 ⟨rfl, (cutUnescaped_eq_none_iff other).1 none⟩
  | case2 cs before after found _ ih =>
      obtain ⟨parts, unseparated, ended⟩ := (cutUnescaped_eq_some_iff other).1 found
      obtain ⟨next, rest, split⟩ := List.exists_cons_of_ne_nil (splitUnescaped_ne_nil separator after)
      rw [splitUnescaped_cut _ found, split]
      rw [split] at ih
      exact Pieces.cons_iff.2 ⟨after, parts, ⟨unseparated, ended⟩, ih⟩

-- The first piece ends at the first plain separator, so there is no choice.
theorem Pieces.eq_splitUnescaped {pieces : List (List Char)} (cutting : Pieces separator cs pieces) :
    pieces = splitUnescaped separator cs := by
  induction pieces generalizing cs with
  | nil => exact absurd rfl cutting.something
  | cons piece rest ih =>
      cases rest with
      | nil =>
          obtain ⟨rfl, unseparated⟩ := Pieces.single_iff.1 cutting
          exact (splitUnescaped_whole _ ((cutUnescaped_eq_none_iff other).2 unseparated)).symm
      | cons next later =>
          obtain ⟨after, parts, ⟨unseparated, ended⟩, others⟩ := Pieces.cons_iff.1 cutting
          have cut := (cutUnescaped_eq_some_iff other).2 ⟨parts, unseparated, ended⟩
          rw [splitUnescaped_cut _ cut, ih others]

theorem splitUnescaped_scanned (cs : List Char) : splitUnescaped separator cs = scannedPieces separator cs := by
  rw [scannedPieces]
  induction cs using splitUnescaped.induct separator with
  | case1 cs none =>
      rw [splitUnescaped_whole _ none, List.splitOn_eq_singleton ((cutUnescaped_eq_none_iff other).1 none), List.map_singleton,
        scan_characters]
  | case2 cs before after found _ ih =>
      obtain ⟨parts, unseparated, ended⟩ := (cutUnescaped_eq_some_iff other).1 found
      have scanned : scan false cs = scan false before ++ (separator, false) :: scan false after := by
        rw [parts, scan_append_ended ended, scan_plain other]
      rw [splitUnescaped_cut _ found, ih, scanned, List.splitOn_append_cons_self_of_not_mem unseparated, List.map_cons,
        scan_characters]

end Splitting

-- One scan from the start finds the same pieces.
theorem pieces_iff_eq_splitUnescaped {separator : Char} (other : separator ≠ '\\') (cs : List Char) :
    (∀ pieces, Pieces separator cs pieces ↔ pieces = splitUnescaped separator cs) ∧
    splitUnescaped separator cs = scannedPieces separator cs := by
  refine ⟨fun pieces => ⟨Pieces.eq_splitUnescaped other, ?_⟩, splitUnescaped_scanned other cs⟩
  rintro rfl
  exact splitUnescaped_pieces other cs

-- Two backslashes escape nothing, a third one does.
theorem pieces_of_backslashes : ',' ≠ '\\' ∧
    splitUnescaped ',' "a\\,b\\\\,\\\\\\,,c\\".toList = ["a\\,b\\\\".toList, "\\\\\\,".toList, "c\\".toList] ∧
    ∀ pieces, Pieces ',' "a\\,b\\\\,\\\\\\,,c\\".toList pieces ↔
      pieces = ["a\\,b\\\\".toList, "\\\\\\,".toList, "c\\".toList] := by
  have other : ',' ≠ '\\' := by decide
  obtain ⟨only, scanned⟩ := pieces_iff_eq_splitUnescaped other "a\\,b\\\\,\\\\\\,,c\\".toList
  have split : splitUnescaped ',' "a\\,b\\\\,\\\\\\,,c\\".toList = ["a\\,b\\\\".toList, "\\\\\\,".toList, "c\\".toList] := by
    rw [scanned]
    decide +kernel
  rw [split] at only
  exact ⟨other, split, only⟩

end RegionWiring.Properties
