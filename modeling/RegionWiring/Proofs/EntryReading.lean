import Mathlib.Data.List.DropRight
import Mathlib.Data.List.Forall2
import RegionWiring.Proofs.Escapes
import RegionWiring.Proofs.Results

namespace RegionWiring.Properties

namespace Sign

-- A backslash at the very end says nothing.
def read : List Char → List Sign
  | [] => []
  | ['\\'] => []
  | '\\' :: c :: rest => .escaped c :: read rest
  | c :: rest => .plain c :: read rest

def isBlank : Sign → Bool
  | .plain c => Text.isBlank c
  | .escaped _ => false

def strip (signs : List Sign) : List Sign := (signs.dropWhile isBlank).rdropWhile isBlank

end Sign

open Sign (Lacks)

def Entry.ofSigns (line : Nat) (signs : List Sign) : Except EntryDefect Entry :=
  match signs.dropWhile (· ≠ .plain '=') with
  | [] => .error .missingSeparator
  | _ :: after =>
      let key := (Sign.strip (signs.takeWhile (· ≠ .plain '='))).map Sign.meant
      if key = [] then .error .emptyKey
      else
        let values := ((after.splitOn (.plain ',')).map fun piece => (Sign.strip piece).map Sign.meant).filter (· ≠ [])
        .ok ⟨String.ofList key, values.map String.ofList, line⟩

def Entry.readSigns (source : String) (line : Nat) (text : List Char) : Except ConfigFault Entry :=
  (Entry.ofSigns line (Sign.read text)).mapError fun defect => .malformedEntry source line defect.reason

namespace Sign

-- Trimming takes as much as stripping. `lone` tells of a backslash at the end.
def Kept (lone : Bool) (piece : List Sign) : Prop :=
  if lone then piece.dropWhile isBlank = strip piece
  else ∀ c, (strip piece).getLast? = some (.escaped c) → Text.isBlank c = false

end Sign

def Faithful (cs : List Char) : Prop :=
  match (Sign.read cs).dropWhile (· ≠ .plain '=') with
  | [] => True
  | _ :: after =>
      let key := (Sign.read cs).takeWhile (· ≠ .plain '=')
      let values := after.splitOn (.plain ',')
      Sign.Kept false key ∧ (Sign.strip key = [] ∨
        (∀ piece ∈ values.dropLast, Sign.Kept false piece) ∧ ∀ piece ∈ values.getLast?, Sign.Kept (continues cs) piece)

section Reading

theorem continues_lone (cs : List Char) : continues (cs ++ ['\\']) = !continues cs := by
  have counted : trailingBackslashes (cs ++ ['\\']) = trailingBackslashes cs + 1 := by
    simp [trailingBackslashes]
  rw [continues, continues, counted, Bool.eq_iff_iff]
  simp
  omega

def loneEnd (lone : Bool) : List Char := if lone then ['\\'] else []

theorem append_loneEnd_false (cs : List Char) : cs ++ loneEnd false = cs := List.append_nil cs

theorem lacks_read (cs : List Char) : Lacks '\\' (Sign.read cs) := by
  fun_induction Sign.read cs with
  | case1 => intro sign inside; cases inside
  | case2 => intro sign inside; cases inside
  | case3 c rest ih => exact List.forall_mem_cons.2 ⟨by simp, ih⟩
  | case4 c rest lone pair ih =>
      have other : c ≠ '\\' := not_escaping lone pair
      exact List.forall_mem_cons.2 ⟨fun same => other (Sign.plain.inj same), ih⟩

theorem exists_loneEnd (cs : List Char) : ∃ lone, cs = Sign.text (Sign.read cs) ++ loneEnd lone := by
  fun_induction Sign.read cs with
  | case1 => exact ⟨false, rfl⟩
  | case2 => exact ⟨true, rfl⟩
  | case3 c rest ih =>
      obtain ⟨lone, same⟩ := ih
      exact ⟨lone, congrArg ('\\' :: c :: ·) same⟩
  | case4 c rest _ _ ih =>
      obtain ⟨lone, same⟩ := ih
      exact ⟨lone, congrArg (c :: ·) same⟩

theorem text_read (cs : List Char) : Sign.text (Sign.read cs) ++ loneEnd (continues cs) = cs := by
  obtain ⟨lone, same⟩ := exists_loneEnd cs
  have spelled := continues_text (lacks_read cs)
  have ends : continues cs = lone := by
    rw [same]
    cases lone with
    | false => simpa [loneEnd] using spelled
    | true => rw [loneEnd, if_pos rfl, continues_lone, spelled]; rfl
  rw [ends]
  exact same.symm

end Reading

section Trimming

variable {signs : List Sign}

theorem trimStart_text (signs : List Sign) (lone : Bool) :
    Text.trimStart (Sign.text signs ++ loneEnd lone) = Sign.text (signs.dropWhile Sign.isBlank) ++ loneEnd lone := by
  induction signs with
  | nil => cases lone <;> rfl
  | cons sign rest ih =>
      cases sign with
      | plain c =>
          show Text.trimStart (c :: (Sign.text rest ++ loneEnd lone)) = _
          cases blank : Text.isBlank c with
          | true =>
              have dropped : (Sign.plain c :: rest).dropWhile Sign.isBlank = rest.dropWhile Sign.isBlank := by
                simp [Sign.isBlank, blank]
              rw [dropped, ← ih]
              simp [Text.trimStart, blank]
          | false =>
              have stays : (Sign.plain c :: rest).dropWhile Sign.isBlank = .plain c :: rest := by simp [Sign.isBlank, blank]
              rw [stays]
              exact Text.trimStart_eq_self fun d first => by cases first; exact blank
      | escaped c =>
          exact Text.trimStart_eq_self fun d first => by cases first; decide

-- Trimming takes plain white space and one escaped white space in front of it.
def worn (signs : List Sign) : List Sign :=
  match signs.getLast? with
  | some (.escaped c) => if Text.isBlank c then signs.dropLast else signs
  | _ => signs

theorem worn_plain (front : List Sign) (c : Char) : worn (front ++ [.plain c]) = front ++ [.plain c] := by
  simp [worn]

theorem worn_escaped (front : List Sign) (c : Char) :
    worn (front ++ [.escaped c]) = if Text.isBlank c then front else front ++ [.escaped c] := by
  simp [worn]

theorem unescape_lone (proper : Lacks '\\' signs) : unescape (Sign.text signs ++ ['\\']) = signs.map Sign.meant :=
  (unescape_text_append proper ['\\']).trans (List.append_nil _)

theorem last_written (front : List Sign) (sign : Sign) : (Sign.text (front ++ [sign])).getLast? = sign.written.getLast? := by
  cases sign <;> simp [Sign.text, Sign.written]

theorem trimEnd_backslash (cs : List Char) : Text.trimEnd (cs ++ ['\\']) = cs ++ ['\\'] := by
  apply Text.trimEnd_eq_self
  intro c last
  have same : '\\' = c := by simpa using last
  subst same
  decide

theorem trimEnd_escaped (front : List Sign) {c : Char} (blank : Text.isBlank c = true) :
    Text.trimEnd (Sign.text (front ++ [.escaped c])) = Sign.text front ++ ['\\'] := by
  have white : Text.Blanks [c] := List.forall_mem_singleton.2 blank
  calc Text.trimEnd (Sign.text (front ++ [.escaped c]))
      = Text.trimEnd (Sign.text front ++ ['\\'] ++ [c]) := by rw [Sign.text_append, List.append_assoc]; rfl
    _ = Text.trimEnd (Sign.text front ++ ['\\']) := Text.trimEnd_append white _
    _ = Sign.text front ++ ['\\'] := trimEnd_backslash _

theorem unescape_trimEnd_visible (proper : Lacks '\\' signs) {c : Char} (last : (Sign.text signs).getLast? = some c)
    (visible : Text.isBlank c = false) : unescape (Text.trimEnd (Sign.text signs)) = signs.map Sign.meant := by
  have whole : Text.trimEnd (Sign.text signs) = Sign.text signs := by
    apply Text.trimEnd_eq_self
    intro d found
    rw [last] at found
    cases found
    exact visible
  rw [whole, unescape_text proper]

theorem unescape_trimEnd_text (proper : Lacks '\\' signs) :
    unescape (Text.trimEnd (Sign.text signs)) = (worn (signs.rdropWhile Sign.isBlank)).map Sign.meant := by
  induction signs using List.reverseRecOn with
  | nil => rfl
  | append_singleton front sign ih =>
      have fine : Lacks '\\' front := fun sign inside => proper sign (List.mem_append_left _ inside)
      by_cases plainBlank : sign.isBlank = true
      · cases sign with
        | escaped c => cases plainBlank
        | plain c =>
            have white : Text.Blanks [c] := List.forall_mem_singleton.2 plainBlank
            rw [Sign.text_append, List.rdropWhile_concat_pos _ _ _ plainBlank, ← ih fine]
            exact congrArg unescape (Text.trimEnd_append white _)
      · rw [List.rdropWhile_concat_neg _ _ _ plainBlank]
        cases sign with
        | plain c =>
            rw [worn_plain]
            exact unescape_trimEnd_visible proper (last_written front _) (Bool.eq_false_iff.2 plainBlank)
        | escaped c =>
            rw [worn_escaped]
            split
            · rename_i blank
              rw [trimEnd_escaped front blank, unescape_lone fine]
            · rename_i visible
              exact unescape_trimEnd_visible proper (last_written front _) (Bool.eq_false_iff.2 visible)

def taken (lone : Bool) (piece : List Sign) : List Sign :=
  if lone then piece.dropWhile Sign.isBlank else worn (Sign.strip piece)

theorem lacks_dropWhile (proper : Lacks '\\' signs) : Lacks '\\' (signs.dropWhile Sign.isBlank) :=
  fun sign inside => proper sign ((List.dropWhile_sublist _).subset inside)

theorem token_text (proper : Lacks '\\' signs) (lone : Bool) :
    token (Sign.text signs ++ loneEnd lone) = (taken lone signs).map Sign.meant := by
  have fine := lacks_dropWhile proper
  rw [token, Text.trim, trimStart_text]
  cases lone with
  | false =>
      rw [append_loneEnd_false, unescape_trimEnd_text fine]
      rfl
  | true =>
      rw [loneEnd, if_pos rfl, trimEnd_backslash, unescape_lone fine]
      rfl

theorem token_signs (proper : Lacks '\\' signs) : token (Sign.text signs) = (taken false signs).map Sign.meant := by
  rw [← token_text proper false, append_loneEnd_false]

theorem taken_nil {piece : List Sign} (nothing : Sign.strip piece = []) (lone : Bool) : taken lone piece = [] := by
  cases lone with
  | false =>
      rw [taken, nothing]
      rfl
  | true =>
      have all := List.rdropWhile_eq_nil_iff.1 nothing
      have visible := List.head?_dropWhile_not Sign.isBlank piece
      show piece.dropWhile Sign.isBlank = []
      cases shown : piece.dropWhile Sign.isBlank with
      | nil => rfl
      | cons sign rest =>
          rw [shown] at all visible
          have white := all sign List.mem_cons_self
          rw [visible] at white
          cases white

-- Each sign is one character, so a loss shows.
theorem worn_meant_iff (signs : List Sign) :
    (worn signs).map Sign.meant = signs.map Sign.meant ↔ ∀ c, signs.getLast? = some (.escaped c) → Text.isBlank c = false := by
  rcases List.eq_nil_or_concat' signs with empty | ⟨front, sign, parts⟩
  · simp [empty, worn]
  · subst parts
    cases sign with
    | plain c => simp [worn_plain]
    | escaped c =>
        rw [worn_escaped]
        cases blank : Text.isBlank c <;> simp [blank]

theorem taken_meant_iff (lone : Bool) (piece : List Sign) :
    (taken lone piece).map Sign.meant = (Sign.strip piece).map Sign.meant ↔ Sign.Kept lone piece := by
  cases lone with
  | true =>
      have shorter : Sign.strip piece <+: piece.dropWhile Sign.isBlank := List.rdropWhile_prefix _ _
      constructor
      · intro taking
        have sizes : (piece.dropWhile Sign.isBlank).length = (Sign.strip piece).length := by
          simpa [taken] using congrArg List.length taking
        exact (shorter.eq_of_length sizes.symm).symm
      · intro kept
        exact congrArg (List.map Sign.meant) kept
  | false => exact worn_meant_iff _

end Trimming

section Cutting

variable {separator : Char}

theorem cut_cases (separator : Char) (signs : List Sign) :
    (Lacks separator signs ∧ signs.dropWhile (· ≠ .plain separator) = []) ∨
    ∃ before after, signs = before ++ .plain separator :: after ∧ Lacks separator before ∧
      signs.takeWhile (· ≠ .plain separator) = before ∧ signs.dropWhile (· ≠ .plain separator) = .plain separator :: after := by
  by_cases separated : .plain separator ∈ signs
  · right
    obtain ⟨before, after, parts, absent⟩ := List.eq_append_cons_of_mem separated
    have passed : ∀ sign ∈ before, decide (sign ≠ .plain separator) = true := fun sign inside =>
      decide_eq_true fun same => absent (same ▸ inside)
    refine ⟨before, after, parts, fun sign inside same => absent (same ▸ inside), ?_, ?_⟩
    · rw [parts, List.takeWhile_append_of_pos passed]
      simp
    · rw [parts, List.dropWhile_append_of_pos passed]
      simp
  · left
    have free : Lacks separator signs := fun sign inside same => separated (same ▸ inside)
    exact ⟨free, List.dropWhile_eq_nil_iff.2 fun sign inside => decide_eq_true (free sign inside)⟩

theorem cutUnescaped_free {signs : List Sign} (proper : Lacks '\\' signs) (free : Lacks separator signs) (lone : Bool) :
    cutUnescaped separator (Sign.text signs ++ loneEnd lone) = none := by
  rw [cutUnescaped_text proper free]
  cases lone <;> rfl

theorem cutUnescaped_separated {before after : List Sign} (proper : Lacks '\\' before) (free : Lacks separator before)
    (other : separator ≠ '\\') (lone : Bool) :
    cutUnescaped separator (Sign.text (before ++ .plain separator :: after) ++ loneEnd lone) =
      some (Sign.text before, Sign.text after ++ loneEnd lone) := by
  rw [Sign.text_append, List.append_assoc]
  exact cutUnescaped_text_separator proper free other _

theorem cutUnescaped_read (other : separator ≠ '\\') {cs : List Char} {before after : List Sign}
    (parts : Sign.read cs = before ++ .plain separator :: after) (free : Lacks separator before) :
    cutUnescaped separator cs = some (Sign.text before, Sign.text after ++ loneEnd (continues cs)) := by
  have proper : Lacks '\\' before := (List.forall_mem_append.1 (parts ▸ lacks_read cs)).1
  calc cutUnescaped separator cs
      = cutUnescaped separator (Sign.text (before ++ .plain separator :: after) ++ loneEnd (continues cs)) := by
        rw [← parts, text_read]
    _ = some (Sign.text before, Sign.text after ++ loneEnd (continues cs)) := cutUnescaped_separated proper free other _

-- Only the last piece can have the lone backslash.
theorem splitUnescaped_signs (other : separator ≠ '\\') (lone : Bool) (signs : List Sign) (proper : Lacks '\\' signs) :
    ∃ front last, signs.splitOn (.plain separator) = front ++ [last] ∧
      splitUnescaped separator (Sign.text signs ++ loneEnd lone) = front.map Sign.text ++ [Sign.text last ++ loneEnd lone] ∧
      ∀ piece ∈ front ++ [last], Lacks '\\' piece := by
  rcases cut_cases separator signs with ⟨free, _⟩ | ⟨before, after, parts, free, _, _⟩
  · have absent : .plain separator ∉ signs := fun inside => free _ inside rfl
    refine ⟨[], signs, List.splitOn_eq_singleton absent, ?_, List.forall_mem_singleton.2 proper⟩
    exact splitUnescaped_whole _ (cutUnescaped_free proper free lone)
  · obtain ⟨firstProper, later⟩ := List.forall_mem_append.1 (parts ▸ proper)
    have absent : .plain separator ∉ before := fun inside => free _ inside rfl
    obtain ⟨front, last, split, pieces, each⟩ := splitUnescaped_signs other lone after (List.forall_mem_cons.1 later).2
    refine ⟨before :: front, last, ?_, ?_, List.forall_mem_cons.2 ⟨firstProper, each⟩⟩
    · rw [parts, List.splitOn_append_cons_self_of_not_mem absent, split]
      rfl
    · rw [parts, splitUnescaped_cut _ (cutUnescaped_separated firstProper free other lone), pieces]
      rfl
termination_by signs.length
decreasing_by rw [parts]; simp; omega

def marked (lone : Bool) (front : List (List Sign)) (last : List Sign) : List (Bool × List Sign) :=
  front.map (false, ·) ++ [(lone, last)]

theorem forall_marked {lone : Bool} {front : List (List Sign)} {last : List Sign} :
    (∀ piece ∈ marked lone front last, Sign.Kept piece.1 piece.2) ↔
      (∀ piece ∈ front, Sign.Kept false piece) ∧ Sign.Kept lone last := by
  rw [marked, List.forall_mem_append, List.forall_mem_map, List.forall_mem_singleton]

theorem tokens_signs (other : separator ≠ '\\') (lone : Bool) {signs : List Sign} (proper : Lacks '\\' signs) :
    ∃ front last, signs.splitOn (.plain separator) = front ++ [last] ∧
      (splitUnescaped separator (Sign.text signs ++ loneEnd lone)).map token =
        (marked lone front last).map fun piece => (taken piece.1 piece.2).map Sign.meant := by
  obtain ⟨front, last, split, pieces, each⟩ := splitUnescaped_signs other lone signs proper
  obtain ⟨before, final⟩ := List.forall_mem_append.1 each
  have tokens : ∀ piece ∈ front, token (Sign.text piece) = (taken false piece).map Sign.meant := fun piece inside =>
    token_signs (before piece inside)
  refine ⟨front, last, split, ?_⟩
  rw [pieces, marked, List.map_append, List.map_append, List.map_map, List.map_map, List.map_singleton, List.map_singleton,
    token_text (List.forall_mem_singleton.1 final)]
  exact congrArg (· ++ _) (List.map_congr_left tokens)

end Cutting

section Assembling

def Entry.ofTokens (line : Nat) (key : List Char) (tokens : List (List Char)) : Except EntryDefect Entry :=
  if key = [] then .error .emptyKey
  else .ok ⟨String.ofList key, (tokens.filter (· ≠ [])).map String.ofList, line⟩

theorem ofTokens_inj (line : Nat) {key other : List Char} {tokens others : List (List Char)} :
    Entry.ofTokens line key tokens = Entry.ofTokens line other others ↔
      key = other ∧ (key = [] ∨ tokens.filter (· ≠ []) = others.filter (· ≠ [])) := by
  unfold Entry.ofTokens
  by_cases empty : key = []
  · by_cases otherEmpty : other = []
    · simp [empty, otherEmpty]
    · simp [empty, otherEmpty, eq_comm]
  · by_cases otherEmpty : other = []
    · simp [empty, otherEmpty]
    · have texts : (tokens.filter (· ≠ [])).map String.ofList = (others.filter (· ≠ [])).map String.ofList ↔
          tokens.filter (· ≠ []) = others.filter (· ≠ []) := List.map_inj_right fun _ _ => String.ofList_inj.1
      rw [if_neg empty, if_neg otherEmpty, Except.ok.injEq, Entry.mk.injEq, String.ofList_inj, texts]
      simp [empty]

section Filled

variable {tokens others : List (List Char)} (related : List.Forall₂ (fun token other => other = [] → token = []) tokens others)
include related

theorem length_filled : (tokens.filter (· ≠ [])).length ≤ (others.filter (· ≠ [])).length := by
  induction related with
  | nil => exact Nat.le_refl _
  | @cons token other tokens others head _ ih =>
      by_cases empty : token = []
      · by_cases otherEmpty : other = []
        · simpa [empty, otherEmpty] using ih
        · simp [empty, otherEmpty]
          simp at ih
          omega
      · have otherFilled : other ≠ [] := fun otherEmpty => empty (head otherEmpty)
        simpa [empty, otherFilled] using ih

-- A token that became empty would be missing in the count.
theorem filled_inj (same : tokens.filter (· ≠ []) = others.filter (· ≠ [])) : tokens = others := by
  induction related with
  | nil => rfl
  | @cons token other tokens others head tail ih =>
      by_cases empty : token = []
      · by_cases otherEmpty : other = []
        · rw [empty, otherEmpty, ih (by simpa [empty, otherEmpty] using same)]
        · have fewer := length_filled tail
          have sizes := congrArg List.length same
          simp [empty, otherEmpty] at sizes fewer
          omega
      · have otherFilled : other ≠ [] := fun otherEmpty => empty (head otherEmpty)
        have parts : token = other ∧ tokens.filter (· ≠ []) = others.filter (· ≠ []) := by simpa [empty, otherFilled] using same
        rw [parts.1, ih parts.2]

end Filled

theorem values_eq_iff (pieces : List (Bool × List Sign)) :
    ((pieces.map fun piece => (taken piece.1 piece.2).map Sign.meant).filter (· ≠ []) =
      (pieces.map fun piece => (Sign.strip piece.2).map Sign.meant).filter (· ≠ [])) ↔
    ∀ piece ∈ pieces, Sign.Kept piece.1 piece.2 := by
  have related : List.Forall₂ (fun token other => other = [] → token = [])
      (pieces.map fun piece => (taken piece.1 piece.2).map Sign.meant)
      (pieces.map fun piece => (Sign.strip piece.2).map Sign.meant) := by
    rw [List.forall₂_map_left_iff, List.forall₂_map_right_iff]
    refine List.forall₂_same.2 fun piece _ empty => ?_
    rw [taken_nil (List.map_eq_nil_iff.1 empty)]
    rfl
  simp only [← taken_meant_iff]
  constructor
  · intro same
    exact List.map_inj_left.1 (filled_inj related same)
  · intro kept
    rw [List.map_inj_left.2 kept]

end Assembling

theorem ofSigns_eq (line : Nat) {signs before after : List Sign} (key : signs.takeWhile (· ≠ .plain '=') = before)
    (rest : signs.dropWhile (· ≠ .plain '=') = .plain '=' :: after) : Entry.ofSigns line signs =
    Entry.ofTokens line ((Sign.strip before).map Sign.meant)
      ((after.splitOn (.plain ',')).map fun piece => (Sign.strip piece).map Sign.meant) := by
  rw [Entry.ofSigns, key, rest]
  rfl

theorem reason_injective : Function.Injective EntryDefect.reason := by
  intro first second same
  cases first with
  | missingSeparator =>
      cases second with
      | missingSeparator => rfl
      | emptyKey => revert same; decide
  | emptyKey =>
      cases second with
      | missingSeparator => revert same; decide
      | emptyKey => rfl

theorem ofChars_separated (line : Nat) {cs : List Char} {before after : List Sign}
    (parts : Sign.read cs = before ++ .plain '=' :: after) (free : Lacks '=' before) : Entry.ofChars line cs =
    Entry.ofTokens line ((taken false before).map Sign.meant)
      ((splitUnescaped ',' (Sign.text after ++ loneEnd (continues cs))).map token) := by
  have proper : Lacks '\\' before := (List.forall_mem_append.1 (parts ▸ lacks_read cs)).1
  rw [Entry.ofChars, cutUnescaped_read (by decide) parts free]
  dsimp only
  rw [token_signs proper]
  rfl

theorem read_eq_readSigns_iff (source : String) (line : Nat) (cs : List Char) :
    Entry.read source line cs = Entry.readSigns source line cs ↔ Faithful cs := by
  have distinct : Function.Injective fun defect : EntryDefect => ConfigFault.malformedEntry source line defect.reason := by
    intro first second same
    exact reason_injective (ConfigFault.malformedEntry.inj same).2.2
  have proper := lacks_read cs
  rw [Entry.read, Entry.readSigns, mapError_inj distinct]
  rcases cut_cases '=' (Sign.read cs) with ⟨free, none⟩ | ⟨before, after, parts, free, key, rest⟩
  · have uncut := cutUnescaped_free proper free (continues cs)
    rw [text_read] at uncut
    rw [Entry.ofChars, Entry.ofSigns, Faithful, uncut, none]
    simp
  · obtain ⟨_, later⟩ := List.forall_mem_append.1 (parts ▸ proper)
    obtain ⟨pieces, last, split, tokens⟩ := tokens_signs (by decide : ',' ≠ '\\') (continues cs) (List.forall_mem_cons.1 later).2
    have signed : (after.splitOn (.plain ',')).map (fun piece => (Sign.strip piece).map Sign.meant) =
        (marked (continues cs) pieces last).map fun piece => (Sign.strip piece.2).map Sign.meant := by
      rw [split, marked, List.map_append, List.map_append, List.map_map]
      rfl
    have faithful : Faithful cs ↔ Sign.Kept false before ∧
        (Sign.strip before = [] ∨ ∀ piece ∈ marked (continues cs) pieces last, Sign.Kept piece.1 piece.2) := by
      rw [Faithful, rest, key, forall_marked]
      simp [split]
    have nothing (kept : Sign.Kept false before) : (taken false before).map Sign.meant = [] ↔ Sign.strip before = [] := by
      rw [(taken_meant_iff false before).2 kept, List.map_eq_nil_iff]
    rw [ofChars_separated line parts free, ofSigns_eq line key rest, tokens, signed, ofTokens_inj, taken_meant_iff,
      values_eq_iff, faithful]
    exact and_congr_right fun kept => or_congr_left (nothing kept)

-- An escaped space is kept in front of a value and lost behind it.
theorem escaped_space_lost :
    Entry.read "d" 1 "k=\\ v\\ ".toList = .ok ⟨"k", [" v"], 1⟩ ∧ Entry.readSigns "d" 1 "k=\\ v\\ ".toList = .ok ⟨"k", [" v "], 1⟩ ∧
    Entry.read "d" 1 "\\ =v".toList = .error (.malformedEntry "d" 1 "empty key") ∧
    Entry.readSigns "d" 1 "\\ =v".toList = .ok ⟨" ", ["v"], 1⟩ := by
  refine ⟨?_, ?_, ?_, ?_⟩ <;> decide +kernel

end RegionWiring.Properties
