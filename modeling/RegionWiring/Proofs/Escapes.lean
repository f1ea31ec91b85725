import Mathlib.Data.List.Induction
import RegionWiring.Proofs.Lines

namespace RegionWiring.Properties

inductive Sign where
  | plain (c : Char)
  | escaped (c : Char)
deriving DecidableEq

namespace Sign

def written : Sign → List Char
  | plain c => [c]
  | escaped c => ['\\', c]

def meant : Sign → Char
  | plain c => c
  | escaped c => escapedChar c

-- A backslash never stands plain.
def Lacks (c : Char) (signs : List Sign) : Prop := ∀ sign ∈ signs, sign ≠ plain c

def text (signs : List Sign) : List Char := signs.flatMap written

theorem text_plain (cs : List Char) : text (cs.map plain) = cs := by
  induction cs with
  | nil => rfl
  | cons c rest ih => exact congrArg (List.cons c) ih

theorem text_append (front back : List Sign) : text (front ++ back) = text front ++ text back := List.flatMap_append

theorem text_intercalate (separator : List Sign) (pieces : List (List Sign)) :
    text (separator.intercalate pieces) = (text separator).intercalate (pieces.map text) := by
  induction pieces with
  | nil => rfl
  | cons signs rest ih =>
      cases rest with
      | nil => simp
      | cons next later =>
          rw [List.intercalate_cons_cons, List.map_cons, List.map_cons, List.intercalate_cons_cons, text_append, text_append]
          exact congrArg (_ ++ ·) ih

theorem meant_plain (cs : List Char) : (cs.map plain).map meant = cs := by
  rw [List.map_map]
  exact List.map_id cs

theorem lacks_plain {c : Char} {cs : List Char} (absent : c ∉ cs) : Lacks c (cs.map plain) := by
  intro sign inside same
  obtain ⟨d, found, rfl⟩ := List.mem_map.1 inside
  exact absent (Sign.plain.inj same ▸ found)

end Sign

open Sign (Lacks)

theorem not_escaping {c : Char} {rest : List Char} (lone : c = '\\' → rest = [] → False)
    (pair : ∀ d later, c = '\\' → rest = d :: later → False) : c ≠ '\\' := by
  intro backslash
  cases rest with
  | nil => exact lone backslash rfl
  | cons d later => exact pair d later backslash rfl

section Equations

variable (separator : Char) {c : Char} (rest : List Char)

theorem unescape_plain (other : c ≠ '\\') : unescape (c :: rest) = c :: unescape rest := by
  cases rest <;> simp [unescape, other]

theorem unescape_escaped (c : Char) : unescape ('\\' :: c :: rest) = escapedChar c :: unescape rest := by
  simp [unescape]

theorem cutUnescaped_plain (other : c ≠ '\\') : cutUnescaped separator (c :: rest) =
    if c = separator then some ([], rest)
    else (cutUnescaped separator rest).map fun (before, after) => (c :: before, after) := by
  cases rest <;> simp [cutUnescaped, other]

theorem cutUnescaped_escaped (c : Char) : cutUnescaped separator ('\\' :: c :: rest) =
    (cutUnescaped separator rest).map fun (before, after) => ('\\' :: c :: before, after) := by
  simp [cutUnescaped]

theorem splitUnescaped_whole {cs : List Char} (none : cutUnescaped separator cs = none) : splitUnescaped separator cs = [cs] := by
  rw [splitUnescaped]
  split
  · rfl
  · rename_i found
    rw [none] at found
    cases found

theorem splitUnescaped_cut {cs before after : List Char} (found : cutUnescaped separator cs = some (before, after)) :
    splitUnescaped separator cs = before :: splitUnescaped separator after := by
  rw [splitUnescaped]
  split
  · rename_i none
    rw [none] at found
    cases found
  · rename_i same
    rw [found] at same
    cases same
    rfl

end Equations

section Written

variable {signs : List Sign} (proper : Lacks '\\' signs)
include proper

theorem unescape_text_append (rest : List Char) :
    unescape (Sign.text signs ++ rest) = signs.map Sign.meant ++ unescape rest := by
  induction signs with
  | nil => rfl
  | cons sign others ih =>
      obtain ⟨first, othersProper⟩ := List.forall_mem_cons.1 proper
      cases sign with
      | plain c =>
          have other : c ≠ '\\' := fun same => first (congrArg Sign.plain same)
          show unescape (c :: (Sign.text others ++ rest)) = _
          rw [unescape_plain _ other, ih othersProper]
          rfl
      | escaped c =>
          show unescape ('\\' :: c :: (Sign.text others ++ rest)) = _
          rw [unescape_escaped, ih othersProper]
          rfl

theorem unescape_text : unescape (Sign.text signs) = signs.map Sign.meant := by
  have read := unescape_text_append proper []
  rwa [List.append_nil, unescape, List.append_nil] at read

theorem cutUnescaped_text {separator : Char} (free : Lacks separator signs) (rest : List Char) :
    cutUnescaped separator (Sign.text signs ++ rest) =
      (cutUnescaped separator rest).map fun (before, after) => (Sign.text signs ++ before, after) := by
  induction signs with
  | nil => exact Option.map_id'.symm
  | cons sign others ih =>
      obtain ⟨first, othersProper⟩ := List.forall_mem_cons.1 proper
      obtain ⟨differs, othersFree⟩ := List.forall_mem_cons.1 free
      cases sign with
      | plain c =>
          have other : c ≠ '\\' := fun same => first (congrArg Sign.plain same)
          have apart : c ≠ separator := fun same => differs (congrArg Sign.plain same)
          show cutUnescaped separator (c :: (Sign.text others ++ rest)) = _
          rw [cutUnescaped_plain _ _ other, if_neg apart, ih othersProper othersFree, Option.map_map]
          rfl
      | escaped c =>
          show cutUnescaped separator ('\\' :: c :: (Sign.text others ++ rest)) = _
          rw [cutUnescaped_escaped, ih othersProper othersFree, Option.map_map]
          rfl

theorem cutUnescaped_text_end {separator : Char} (free : Lacks separator signs) :
    cutUnescaped separator (Sign.text signs) = none := by
  have passed := cutUnescaped_text proper free []
  rwa [List.append_nil] at passed

theorem cutUnescaped_text_separator {separator : Char} (free : Lacks separator signs) (other : separator ≠ '\\')
    (rest : List Char) : cutUnescaped separator (Sign.text signs ++ separator :: rest) = some (Sign.text signs, rest) := by
  rw [cutUnescaped_text proper free, cutUnescaped_plain _ _ other, if_pos rfl, Option.map_some]
  exact congrArg (fun before => some (before, rest)) (List.append_nil _)

-- By induction from the end: an escaped backslash there makes two, anything else none.
theorem continues_text : continues (Sign.text signs) = false := by
  induction signs using List.reverseRecOn with
  | nil => rfl
  | append_singleton front sign ih =>
      have fine : Lacks '\\' front := fun sign inside => proper sign (List.mem_append_left _ inside)
      have counted := ih fine
      rw [continues, trailingBackslashes] at counted
      rw [continues, trailingBackslashes, Sign.text_append, List.reverse_append]
      cases sign with
      | plain c =>
          have other : c ≠ '\\' := by
            rintro rfl
            exact proper _ (List.mem_append_right _ List.mem_cons_self) rfl
          simp [Sign.text, Sign.written, other]
      | escaped c =>
          by_cases backslash : c = '\\'
          · subst backslash
            simp [Sign.text, Sign.written] at counted ⊢
            omega
          · simp [Sign.text, Sign.written, backslash]

end Written

theorem splitUnescaped_texts {separator : Char} (other : separator ≠ '\\') {pieces : List (List Sign)} (filled : pieces ≠ [])
    (proper : ∀ signs ∈ pieces, Lacks '\\' signs) (free : ∀ signs ∈ pieces, Lacks separator signs) :
    splitUnescaped separator ([separator].intercalate (pieces.map Sign.text)) = pieces.map Sign.text := by
  induction pieces with
  | nil => exact absurd rfl filled
  | cons signs rest ih =>
      obtain ⟨firstProper, othersProper⟩ := List.forall_mem_cons.1 proper
      obtain ⟨firstFree, othersFree⟩ := List.forall_mem_cons.1 free
      cases rest with
      | nil =>
          rw [List.map_singleton, List.intercalate_singleton]
          exact splitUnescaped_whole _ (cutUnescaped_text_end firstProper firstFree)
      | cons next later =>
          rw [List.map_cons, List.map_cons, List.intercalate_cons_cons, List.append_assoc, List.singleton_append,
            splitUnescaped_cut _ (cutUnescaped_text_separator firstProper firstFree other _)]
          exact congrArg (List.cons _) (ih (List.cons_ne_nil _ _) othersProper othersFree)

section Blanks

variable {blanks : List Char} (blank : Text.Blanks blanks) {separator : Char} (visible : Text.isBlank separator = false)

include blank in
theorem not_backslash {c : Char} (inside : c ∈ blanks) : c ≠ '\\' := by
  rintro rfl
  have white := blank '\\' inside
  revert white
  decide

include blank visible in
theorem cutUnescaped_blanks : cutUnescaped separator blanks = none := by
  induction blanks with
  | nil => rfl
  | cons c rest ih =>
      have white := blank c List.mem_cons_self
      have apart : c ≠ separator := by
        rintro rfl
        rw [visible] at white
        cases white
      rw [cutUnescaped_plain _ _ (not_backslash blank List.mem_cons_self), if_neg apart,
        ih fun c inside => blank c (List.mem_cons_of_mem _ inside)]
      rfl

include blank visible in
theorem cutUnescaped_append_blanks (cs : List Char) : cutUnescaped separator (cs ++ blanks) =
    (cutUnescaped separator cs).map fun (before, after) => (before, after ++ blanks) := by
  fun_induction cutUnescaped separator cs with
  | case1 => exact cutUnescaped_blanks blank visible
  | case2 =>
      cases blanks with
      | nil => rfl
      | cons c rest =>
          show cutUnescaped separator ('\\' :: c :: rest) = none
          rw [cutUnescaped_escaped, cutUnescaped_blanks (fun c inside => blank c (List.mem_cons_of_mem _ inside)) visible]
          rfl
  | case3 c rest ih =>
      show cutUnescaped separator ('\\' :: c :: (rest ++ blanks)) = _
      rw [cutUnescaped_escaped, ih, Option.map_map, Option.map_map]
      rfl
  | case4 rest lone pair =>
      show cutUnescaped separator (separator :: (rest ++ blanks)) = _
      rw [cutUnescaped_plain _ _ (not_escaping lone pair), if_pos rfl]
      rfl
  | case5 c rest lone pair apart ih =>
      show cutUnescaped separator (c :: (rest ++ blanks)) = _
      rw [cutUnescaped_plain _ _ (not_escaping lone pair), if_neg apart, ih, Option.map_map, Option.map_map]
      rfl

include blank visible in
theorem tokens_append_blanks (cs : List Char) :
    (splitUnescaped separator (cs ++ blanks)).map token = (splitUnescaped separator cs).map token := by
  have same (piece : List Char) : token (piece ++ blanks) = token piece := congrArg unescape (Text.trim_append blank piece)
  induction cs using splitUnescaped.induct separator with
  | case1 cs none =>
      have still : cutUnescaped separator (cs ++ blanks) = .none := by rw [cutUnescaped_append_blanks blank visible, none]; rfl
      rw [splitUnescaped_whole _ none, splitUnescaped_whole _ still, List.map_singleton, List.map_singleton, same]
  | case2 cs before after found _ ih =>
      have still : cutUnescaped separator (cs ++ blanks) = some (before, after ++ blanks) := by
        rw [cutUnescaped_append_blanks blank visible, found]
        rfl
      rw [splitUnescaped_cut _ found, splitUnescaped_cut _ still, List.map_cons, List.map_cons, ih]

include blank in
theorem ofChars_append_blanks (line : Nat) (cs : List Char) : Entry.ofChars line (cs ++ blanks) = Entry.ofChars line cs := by
  rw [Entry.ofChars, Entry.ofChars, cutUnescaped_append_blanks blank (by decide)]
  cases cutUnescaped '=' cs with
  | none => rfl
  | some parts =>
      obtain ⟨before, after⟩ := parts
      simp only [Option.map_some, tokens_append_blanks blank (by decide : Text.isBlank ',' = false)]

end Blanks

theorem ofChars_trimEnd (line : Nat) (cs : List Char) : Entry.ofChars line (Text.trimEnd cs) = Entry.ofChars line cs := by
  obtain ⟨blanks, blank, parts⟩ := Text.trimEnd_parts cs
  calc Entry.ofChars line (Text.trimEnd cs)
      = Entry.ofChars line (Text.trimEnd cs ++ blanks) := (ofChars_append_blanks blank line _).symm
    _ = Entry.ofChars line cs := by rw [← parts]

end RegionWiring.Properties
