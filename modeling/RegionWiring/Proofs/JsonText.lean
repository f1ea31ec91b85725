import Mathlib.Data.List.Basic
import Mathlib.Data.List.TakeWhile
import RegionWiring.Json.Reader
import RegionWiring.Json.Writer

namespace RegionWiring.Json

section Texts

theorem hexValue_hexDigit : ∀ n < 16, hexValue (hexDigit n) = some n := by decide

theorem escape_cases (c : Char) :
    (∃ e, e ≠ 'u' ∧ shortEscape e = some c ∧ escape c = ['\\', e]) ∨
    (c.toNat < 32 ∧ escape c = ['\\', 'u', '0', '0', hexDigit (c.toNat / 16), hexDigit (c.toNat % 16)]) ∨
    (c ≠ '"' ∧ c ≠ '\\' ∧ 32 ≤ c.toNat ∧ escape c = [c]) := by
  unfold escape
  split
  · subst c; exact .inl ⟨'"', by decide, rfl, rfl⟩
  split
  · subst c; exact .inl ⟨'\\', by decide, rfl, rfl⟩
  split
  · subst c; exact .inl ⟨'n', by decide, rfl, rfl⟩
  split
  · subst c; exact .inl ⟨'r', by decide, rfl, rfl⟩
  split
  · subst c; exact .inl ⟨'t', by decide, rfl, rfl⟩
  split
  · subst c; exact .inl ⟨'b', by decide, rfl, rfl⟩
  split
  · subst c; exact .inl ⟨'f', by decide, rfl, rfl⟩
  split
  · rename_i control
    exact .inr (.inl ⟨control, rfl⟩)
  · rename_i noQuote noBackslash _ _ _ _ _ visible
    exact .inr (.inr ⟨noQuote, noBackslash, Nat.not_lt.1 visible, rfl⟩)

theorem hexQuad_control {n : Nat} (control : n < 32) : hexQuad '0' '0' (hexDigit (n / 16)) (hexDigit (n % 16)) = some n := by
  have zero : hexValue '0' = some 0 := rfl
  have joined : n / 16 * 16 + n % 16 = n := by omega
  simp [hexQuad, zero, hexValue_hexDigit (n / 16) (by omega), hexValue_hexDigit (n % 16) (by omega), joined]

-- Below the surrogates a code unit stands for itself.
theorem pairUnits_code {n : Nat} (low : n < 0xD800) {units : List TextUnit} {cs : List Char} (paired : pairUnits units = some cs) :
    pairUnits (.code n :: units) = some (Char.ofNat n :: cs) := by
  have notHigh : ¬ 0xD800 ≤ n := by omega
  have notLow : ¬ 0xDC00 ≤ n := by omega
  rw [pairUnits.eq_def]
  simp [notHigh, notLow, paired]

theorem readUnits_escape (c : Char) {tail rest : List Char} {units : List TextUnit} (read : readUnits tail = some (units, rest)) :
    ∃ unit, readUnits (escape c ++ tail) = some (unit :: units, rest) ∧
      ∀ cs, pairUnits units = some cs → pairUnits (unit :: units) = some (c :: cs) := by
  have plain (cs : List Char) (paired : pairUnits units = some cs) : pairUnits (.char c :: units) = some (c :: cs) := by
    simp [pairUnits, paired]
  rcases escape_cases c with ⟨e, short, found, written⟩ | ⟨control, written⟩ | ⟨noQuote, noBackslash, visible, written⟩
  · exact ⟨.char c, by simp [written, readUnits, short, found, read], plain⟩
  · refine ⟨.code c.toNat, by simp [written, readUnits, hexQuad_control control, read], ?_⟩
    intro cs paired
    simpa using pairUnits_code (by omega : c.toNat < 0xD800) paired
  · exact ⟨.char c, by simp [written, readUnits, noBackslash, Nat.not_lt.2 visible, read], plain⟩

theorem readText_quoted (s : String) (rest : List Char) :
    readText (s.toList.flatMap escape ++ '"' :: rest) = some (some s, rest) := by
  have units : ∃ units, readUnits (s.toList.flatMap escape ++ '"' :: rest) = some (units, rest) ∧ pairUnits units = some s.toList := by
    generalize s.toList = cs
    induction cs with
    | nil => exact ⟨[], by simp [readUnits], rfl⟩
    | cons c cs ih =>
        obtain ⟨units, read, paired⟩ := ih
        obtain ⟨unit, first, joined⟩ := readUnits_escape c read
        refine ⟨unit :: units, ?_, joined cs paired⟩
        rw [List.flatMap_cons, List.append_assoc]
        exact first
  obtain ⟨units, read, paired⟩ := units
  simp [readText, read, paired]

end Texts

section Numbers

-- No digit, fraction or exponent follows.
def Ends (rest : List Char) : Prop := ∀ c, rest.head? = some c → c.isDigit = false ∧ c ≠ '.' ∧ c ≠ 'e' ∧ c ≠ 'E'

theorem takeWhile_digits (n : Nat) {rest : List Char} (ends : Ends rest) :
    (Decimal.digits n ++ rest).takeWhile Char.isDigit = Decimal.digits n := by
  rw [List.takeWhile_append_of_pos fun _ => Decimal.isDigit_of_mem_digits]
  cases rest with
  | nil => simp
  | cons c rest => simp [(ends c rfl).1]

theorem dropWhile_digits (n : Nat) {rest : List Char} (ends : Ends rest) :
    (Decimal.digits n ++ rest).dropWhile Char.isDigit = rest := by
  rw [List.dropWhile_append_of_pos fun _ => Decimal.isDigit_of_mem_digits]
  cases rest with
  | nil => rfl
  | cons c rest => simp [(ends c rfl).1]

theorem skipFraction_ends {rest : List Char} (ends : Ends rest) : skipFraction rest = some (false, rest) := by
  cases rest with
  | nil => rfl
  | cons c rest => simp [skipFraction, (ends c rfl).2.1]

theorem skipExponent_ends {rest : List Char} (ends : Ends rest) : skipExponent rest = some (false, rest) := by
  cases rest with
  | nil => rfl
  | cons c rest =>
      obtain ⟨_, _, small, capital⟩ := ends c rfl
      have none : ¬ (c = 'e' || c = 'E') = true := by simp [small, capital]
      exact if_neg none

theorem digits_plain (n : Nat) : ¬ ((Decimal.digits n).head? = some '0' ∧ (Decimal.digits n).length ≠ 1) := by
  rintro ⟨zero, long⟩
  obtain rfl : n = 0 := Decimal.eq_zero_of_head?_digits zero
  exact long rfl

theorem digits_cons (n : Nat) : ∃ c cs, Decimal.digits n = c :: cs ∧ c.isDigit = true := by
  obtain ⟨c, cs, written⟩ : ∃ c cs, Decimal.digits n = c :: cs := List.exists_cons_of_ne_nil (Decimal.digits_ne_nil n)
  exact ⟨c, cs, written, Decimal.isDigit_of_mem_digits (by rw [written]; exact List.mem_cons_self)⟩

theorem readNumber_digits (n : Nat) {rest : List Char} (ends : Ends rest) :
    readNumber (Decimal.digits n ++ rest) = some (integerOf false n, rest) ∧
    readNumber ('-' :: (Decimal.digits n ++ rest)) = some (integerOf true n, rest) := by
  obtain ⟨c, cs, written, digit⟩ := digits_cons n
  have signless : c ≠ '-' := by rintro rfl; cases digit
  have nonempty := Decimal.digits_ne_nil n
  refine ⟨?_, ?_⟩
  · unfold readNumber
    split
    rename_i parted
    split at parted
    · rename_i signed
      rw [written] at signed
      exact absurd (List.cons.inj signed).1 signless
    · cases parted
      simp [takeWhile_digits n ends, dropWhile_digits n ends, nonempty, digits_plain n, skipFraction_ends ends,
        skipExponent_ends ends, Decimal.value_digits]
  · simp [readNumber, takeWhile_digits n ends, dropWhile_digits n ends, nonempty, digits_plain n, skipFraction_ends ends,
      skipExponent_ends ends, Decimal.value_digits]

theorem readNumber_integer (n : Int) {rest : List Char} (ends : Ends rest) :
    readNumber (integerChars n ++ rest) = some (.integer n, rest) := by
  cases n with
  | ofNat n => exact (readNumber_digits n ends).1
  | negSucc n => exact (readNumber_digits (n + 1) ends).2

end Numbers

section Gaps

def Gap (cs : List Char) : Prop := ∀ c ∈ cs, isGap c = true

theorem skipGaps_append {gap : List Char} (passed : Gap gap) (cs : List Char) : skipGaps (gap ++ cs) = skipGaps cs :=
  List.dropWhile_append_of_pos passed

theorem skipGaps_cons {c : Char} (item : isGap c = false) (cs : List Char) : skipGaps (c :: cs) = c :: cs := by
  simp [skipGaps, item]

theorem skipGaps_parts (cs : List Char) : ∃ gap, Gap gap ∧ cs = gap ++ skipGaps cs :=
  ⟨cs.takeWhile isGap, fun _ inside => List.mem_takeWhile_imp inside, List.takeWhile_append_dropWhile.symm⟩

variable {gap : List Char} (passed : Gap gap)
include passed

theorem readValue_gap (fuel : Nat) (cs : List Char) : readValue fuel (gap ++ cs) = readValue fuel cs := by
  cases fuel with
  | zero => rfl
  | succ fuel => rw [readValue, readValue, skipGaps_append passed]

theorem readItems_gap (fuel : Nat) (cs : List Char) : readItems fuel (gap ++ cs) = readItems fuel cs := by
  cases fuel with
  | zero => rfl
  | succ fuel => rw [readItems, readItems, readValue_gap passed]

theorem readFields_gap (fuel : Nat) (cs : List Char) : readFields fuel (gap ++ cs) = readFields fuel cs := by
  cases fuel with
  | zero => rfl
  | succ fuel => rw [readFields, readFields, skipGaps_append passed]

end Gaps

section Brackets

theorem readItems_skipGaps (fuel : Nat) (cs : List Char) : readItems fuel (skipGaps cs) = readItems fuel cs := by
  obtain ⟨gap, passed, parts⟩ := skipGaps_parts cs
  have same := readItems_gap passed fuel (skipGaps cs)
  rw [← parts] at same
  exact same.symm

theorem readFields_skipGaps (fuel : Nat) (cs : List Char) : readFields fuel (skipGaps cs) = readFields fuel cs := by
  obtain ⟨gap, passed, parts⟩ := skipGaps_parts cs
  have same := readFields_gap passed fuel (skipGaps cs)
  rw [← parts] at same
  exact same.symm

theorem readValue_list (fuel : Nat) {c : Char} {cs rest : List Char} (first : skipGaps cs = c :: rest) (filled : c ≠ ']') :
    readValue (fuel + 1) ('[' :: cs) = (readItems fuel cs).map fun (items, after) => (.list items, after) := by
  rw [← readItems_skipGaps]
  simp [readValue, skipGaps_cons, isGap, first, filled]

theorem readValue_record (fuel : Nat) {c : Char} {cs rest : List Char} (first : skipGaps cs = c :: rest) (filled : c ≠ '}') :
    readValue (fuel + 1) ('{' :: cs) = (readFields fuel cs).map fun (fields, after) => (recordOf fields, after) := by
  rw [← readFields_skipGaps]
  simp [readValue, skipGaps_cons, isGap, first, filled]

end Brackets

section Layouts

-- What stands in front of an item, and behind the colon of a field.
structure Layout where
  line : Nat → List Char
  space : List Char
  line_gap : ∀ depth, Gap (line depth)
  space_gap : Gap space

def Layout.tight : Layout := ⟨fun _ => [], [], by simp [Gap], by simp [Gap]⟩

def Layout.wide : Layout where
  line := newline
  space := [' ']
  line_gap depth := by
    intro c inside
    rcases List.mem_cons.1 inside with rfl | blank
    · rfl
    · rw [List.eq_of_mem_replicate blank]; rfl
  space_gap := by simp [Gap, isGap]

@[simp] theorem Layout.tight_line (depth : Nat) : Layout.tight.line depth = [] := rfl

@[simp] theorem Layout.tight_space : Layout.tight.space = [] := rfl

@[simp] theorem Layout.wide_line (depth : Nat) : Layout.wide.line depth = newline depth := rfl

@[simp] theorem Layout.wide_space : Layout.wide.space = [' '] := rfl

mutual
def laid (l : Layout) (depth : Nat) : Json → List Char
  | .null => ['n', 'u', 'l', 'l']
  | .bool true => ['t', 'r', 'u', 'e']
  | .bool false => ['f', 'a', 'l', 's', 'e']
  | .integer n => integerChars n
  | .text s => quoted s
  | .list [] => ['[', ']']
  | .list (item :: rest) => '[' :: (laidItems l (depth + 1) (item :: rest) ++ l.line depth ++ [']'])
  | .record [] => ['{', '}']
  | .record (field :: rest) => '{' :: (laidFields l (depth + 1) (field :: rest) ++ l.line depth ++ ['}'])
  | .foreign => ['n', 'u', 'l', 'l']
def laidItems (l : Layout) (depth : Nat) : List Json → List Char
  | [] => []
  | [item] => l.line depth ++ laid l depth item
  | item :: next :: rest => l.line depth ++ laid l depth item ++ ',' :: laidItems l depth (next :: rest)
def laidFields (l : Layout) (depth : Nat) : List (String × Json) → List Char
  | [] => []
  | [(name, value)] => l.line depth ++ quoted name ++ ':' :: (l.space ++ laid l depth value)
  | (name, value) :: next :: rest =>
      l.line depth ++ quoted name ++ ':' :: (l.space ++ laid l depth value ++ ',' :: laidFields l depth (next :: rest))
end

mutual
theorem laid_tight (depth : Nat) : ∀ j, laid .tight depth j = compactChars j
  | .null => rfl
  | .bool true => rfl
  | .bool false => rfl
  | .integer _ => rfl
  | .text _ => rfl
  | .list [] => rfl
  | .list (item :: rest) => by simp [laid, compactChars, laidItems_tight (depth + 1) (item :: rest)]
  | .record [] => rfl
  | .record (field :: rest) => by simp [laid, compactChars, laidFields_tight (depth + 1) (field :: rest)]
  | .foreign => rfl
theorem laidItems_tight (depth : Nat) : ∀ items, laidItems .tight depth items = itemChars items
  | [] => rfl
  | [item] => laid_tight depth item
  | item :: next :: rest => by
      simp [laidItems, itemChars, laid_tight depth item, laidItems_tight depth (next :: rest)]
theorem laidFields_tight (depth : Nat) : ∀ fields, laidFields .tight depth fields = fieldChars fields
  | [] => rfl
  | [(name, value)] => by simp [laidFields, fieldChars, laid_tight depth value]
  | (name, value) :: next :: rest => by
      simp [laidFields, fieldChars, laid_tight depth value, laidFields_tight depth (next :: rest)]
end

mutual
theorem laid_wide (depth : Nat) : ∀ j, laid .wide depth j = indentedChars depth j
  | .null => rfl
  | .bool true => rfl
  | .bool false => rfl
  | .integer _ => rfl
  | .text _ => rfl
  | .list [] => rfl
  | .list (item :: rest) => by simp [laid, indentedChars, laidItems_wide (depth + 1) (item :: rest)]
  | .record [] => rfl
  | .record (field :: rest) => by simp [laid, indentedChars, laidFields_wide (depth + 1) (field :: rest)]
  | .foreign => rfl
theorem laidItems_wide (depth : Nat) : ∀ items, laidItems .wide depth items = indentedItems depth items
  | [] => rfl
  | [item] => by simp [laidItems, indentedItems, laid_wide depth item]
  | item :: next :: rest => by
      simp [laidItems, indentedItems, laid_wide depth item, laidItems_wide depth (next :: rest)]
theorem laidFields_wide (depth : Nat) : ∀ fields, laidFields .wide depth fields = indentedFields depth fields
  | [] => rfl
  | [(name, value)] => by simp [laidFields, indentedFields, laid_wide depth value]
  | (name, value) :: next :: rest => by
      simp [laidFields, indentedFields, laid_wide depth value, laidFields_wide depth (next :: rest)]
end

end Layouts

section Reading

mutual
def Native : Json → Prop
  | .foreign => False
  | .list items => NativeItems items
  | .record fields => NativeFields fields
  | _ => True
def NativeItems : List Json → Prop
  | [] => True
  | item :: rest => Native item ∧ NativeItems rest
def NativeFields : List (String × Json) → Prop
  | [] => True
  | (_, value) :: rest => Native value ∧ NativeFields rest
end

mutual
-- How much fuel the reader takes for a value.
def cost : Json → Nat
  | .list items => 1 + itemsCost items
  | .record fields => 1 + fieldsCost fields
  | _ => 1
def itemsCost : List Json → Nat
  | [] => 0
  | item :: rest => 1 + max (cost item) (itemsCost rest)
def fieldsCost : List (String × Json) → Nat
  | [] => 0
  | (_, value) :: rest => 1 + max (cost value) (fieldsCost rest)
end

theorem isGap_digit {c : Char} (digit : c.isDigit = true) : isGap c = false := by
  simp only [isGap, Bool.or_eq_false_iff, beq_eq_false_iff_ne, ne_eq]
  refine ⟨⟨⟨?_, ?_⟩, ?_⟩, ?_⟩ <;> rintro rfl <;> cases digit

theorem laid_head (l : Layout) (depth : Nat) (j : Json) :
    ∃ c cs, laid l depth j = c :: cs ∧ isGap c = false ∧ c ≠ ']' ∧ c ≠ '}' := by
  cases j with
  | null => exact ⟨_, _, rfl, by decide⟩
  | bool b => cases b <;> exact ⟨_, _, rfl, by decide⟩
  | integer n =>
      cases n with
      | ofNat n =>
          obtain ⟨c, cs, written, digit⟩ := digits_cons n
          refine ⟨c, cs, written, isGap_digit digit, ?_, ?_⟩ <;> rintro rfl <;> cases digit
      | negSucc n => exact ⟨_, _, rfl, by decide⟩
  | text s => exact ⟨_, _, rfl, by decide⟩
  | list items => cases items <;> exact ⟨_, _, rfl, by decide⟩
  | record fields => cases fields <;> exact ⟨_, _, rfl, by decide⟩
  | foreign => exact ⟨_, _, rfl, by decide⟩

theorem ends_gap {gap : List Char} (passed : Gap gap) {c : Char} {rest : List Char} (ends : Ends (c :: rest)) :
    Ends (gap ++ c :: rest) := by
  cases gap with
  | nil => exact ends
  | cons blank gap =>
      rintro _ ⟨⟩
      have passedBlank := passed blank List.mem_cons_self
      refine ⟨?_, ?_, ?_, ?_⟩
      · cases digit : blank.isDigit with
        | false => rfl
        | true => exact absurd passedBlank (by simp [isGap_digit digit])
      all_goals rintro rfl; cases passedBlank

theorem ends_comma (rest : List Char) : Ends (',' :: rest) := by
  rintro _ ⟨⟩
  decide

theorem ends_bracket (rest : List Char) : Ends (']' :: rest) := by
  rintro _ ⟨⟩
  decide

theorem ends_brace (rest : List Char) : Ends ('}' :: rest) := by
  rintro _ ⟨⟩
  decide

theorem readValue_number (fuel : Nat) {c : Char} (signed : c = '-' ∨ c.isDigit = true) (cs : List Char) :
    readValue (fuel + 1) (c :: cs) = readNumber (c :: cs) := by
  have item : isGap c = false := by
    rcases signed with rfl | digit
    · rfl
    · exact isGap_digit digit
  have other (d : Char) (letter : d ≠ '-' ∧ d.isDigit = false) : c ≠ d := by
    rintro rfl
    simp [letter] at signed
  have notNull := other 'n' (by decide)
  have notTrue := other 't' (by decide)
  have notFalse := other 'f' (by decide)
  have notText := other '"' (by decide)
  have notList := other '[' (by decide)
  have notRecord := other '{' (by decide)
  simp [readValue, skipGaps_cons item, notNull, notTrue, notFalse, notText, notList, notRecord]

theorem readValue_integer (fuel : Nat) (n : Int) {rest : List Char} (ends : Ends rest) :
    readValue (fuel + 1) (integerChars n ++ rest) = some (.integer n, rest) := by
  have sign : ∃ c cs, integerChars n = c :: cs ∧ (c = '-' ∨ c.isDigit = true) := by
    cases n with
    | ofNat n =>
        obtain ⟨c, cs, written, digit⟩ := digits_cons n
        exact ⟨c, cs, written, .inr digit⟩
    | negSucc n => exact ⟨_, _, rfl, .inl rfl⟩
  obtain ⟨c, cs, written, signed⟩ := sign
  have read := readNumber_integer n ends
  rw [written] at read ⊢
  exact (readValue_number fuel signed _).trans read

theorem laidItems_first (l : Layout) (depth : Nat) (item : Json) (items : List Json) :
    ∃ more, laidItems l depth (item :: items) = l.line depth ++ (laid l depth item ++ more) := by
  cases items with
  | nil => exact ⟨[], by simp [laidItems]⟩
  | cons next items => exact ⟨',' :: laidItems l depth (next :: items), by simp [laidItems]⟩

theorem laidFields_first (l : Layout) (depth : Nat) (field : String × Json) (fields : List (String × Json)) :
    ∃ more, laidFields l depth (field :: fields) = l.line depth ++ '"' :: more := by
  obtain ⟨name, value⟩ := field
  cases fields with
  | nil => exact ⟨_, by rw [laidFields, List.append_assoc, quoted, List.cons_append]⟩
  | cons next fields => exact ⟨_, by rw [laidFields, List.append_assoc, quoted, List.cons_append]⟩

theorem recordOf_named (fields : List (String × Json)) :
    recordOf (fields.map fun field => (some field.1, field.2)) = .record fields := by
  have named : (fields.map fun field => (some field.1, field.2)).mapM (m := Option)
      (fun field => field.1.map (·, field.2)) = some fields := by
    induction fields with
    | nil => rfl
    | cons field fields ih => simp [ih]
  simp only [recordOf, named]

mutual
-- In every layout a value is read back, and the rest is left.
theorem readValue_laid (l : Layout) (depth : Nat) : ∀ (j : Json) {fuel : Nat} (rest : List Char),
    Native j → cost j ≤ fuel → Ends rest → readValue fuel (laid l depth j ++ rest) = some (j, rest)
  | j, 0, _, _, deep, _ => by cases j <;> simp [cost] at deep
  | .null, _ + 1, _, _, _, _ => by simp [readValue, laid, skipGaps_cons, isGap]
  | .bool true, _ + 1, _, _, _, _ => by simp [readValue, laid, skipGaps_cons, isGap]
  | .bool false, _ + 1, _, _, _, _ => by simp [readValue, laid, skipGaps_cons, isGap]
  | .integer n, fuel + 1, _, _, _, ends => readValue_integer fuel n ends
  | .text s, _ + 1, _, _, _, _ => by simp [readValue, laid, quoted, skipGaps_cons, isGap, readText_quoted]
  | .list [], _ + 1, _, _, _, _ => by simp [readValue, laid, skipGaps_cons, isGap]
  | .list (item :: items), fuel + 1, rest, native, deep, _ => by
      have inner : itemsCost (item :: items) ≤ fuel := by
        simp only [cost] at deep
        omega
      have read := readItems_laid l (depth + 1) depth item items rest native inner
      obtain ⟨more, first⟩ := laidItems_first l (depth + 1) item items
      obtain ⟨c, cs, head, visible, filled, _⟩ := laid_head l (depth + 1) item
      have start : skipGaps (laidItems l (depth + 1) (item :: items) ++ (l.line depth ++ ']' :: rest)) =
          c :: (cs ++ (more ++ (l.line depth ++ ']' :: rest))) := by
        rw [first, List.append_assoc, skipGaps_append (l.line_gap _), head]
        simp [skipGaps_cons visible]
      have opened := readValue_list fuel start filled
      rw [read, Option.map_some] at opened
      simpa [laid] using opened
  | .record [], _ + 1, _, _, _, _ => by simp [readValue, laid, skipGaps_cons, isGap]
  | .record (field :: fields), fuel + 1, rest, native, deep, _ => by
      have inner : fieldsCost (field :: fields) ≤ fuel := by
        simp only [cost] at deep
        omega
      have read := readFields_laid l (depth + 1) depth field fields rest native inner
      obtain ⟨more, first⟩ := laidFields_first l (depth + 1) field fields
      have start : skipGaps (laidFields l (depth + 1) (field :: fields) ++ (l.line depth ++ '}' :: rest)) =
          '"' :: (more ++ (l.line depth ++ '}' :: rest)) := by
        rw [first, List.append_assoc, skipGaps_append (l.line_gap _)]
        simp [skipGaps_cons, isGap]
      have opened := readValue_record fuel start (by decide)
      simp only [read, Option.map_some, recordOf_named] at opened
      simpa [laid] using opened
  | .foreign, _ + 1, _, native, _, _ => native.elim
termination_by structural _ fuel => fuel
theorem readItems_laid (l : Layout) (depth outer : Nat) : ∀ (item : Json) (items : List Json) {fuel : Nat} (rest : List Char),
    NativeItems (item :: items) → itemsCost (item :: items) ≤ fuel →
    readItems fuel (laidItems l depth (item :: items) ++ (l.line outer ++ ']' :: rest)) = some (item :: items, rest)
  | _, _, 0, _, _, deep => by simp [itemsCost] at deep
  | item, [], fuel + 1, rest, native, deep => by
      have inner : cost item ≤ fuel := by
        simp only [itemsCost] at deep
        omega
      have read := readValue_laid l depth item _ native.1 inner (ends_gap (l.line_gap outer) (ends_bracket rest))
      rw [laidItems, List.append_assoc, readItems_gap (l.line_gap depth), readItems, read]
      simp [skipGaps_append (l.line_gap outer), skipGaps_cons, isGap]
  | item, next :: items, fuel + 1, rest, native, deep => by
      have inner : cost item ≤ fuel ∧ itemsCost (next :: items) ≤ fuel := by
        rw [itemsCost] at deep
        omega
      have read := readValue_laid l depth item _ native.1 inner.1
        (ends_comma (laidItems l depth (next :: items) ++ (l.line outer ++ ']' :: rest)))
      have others := readItems_laid l depth outer next items rest native.2 inner.2
      rw [laidItems, List.append_assoc, List.append_assoc, readItems_gap (l.line_gap depth), List.cons_append, readItems, read]
      simp [skipGaps_cons, isGap, others]
termination_by structural _ _ fuel => fuel
theorem readFields_laid (l : Layout) (depth outer : Nat) :
    ∀ (field : String × Json) (fields : List (String × Json)) {fuel : Nat} (rest : List Char),
    NativeFields (field :: fields) → fieldsCost (field :: fields) ≤ fuel →
    readFields fuel (laidFields l depth (field :: fields) ++ (l.line outer ++ '}' :: rest)) =
      some ((field :: fields).map fun field => (some field.1, field.2), rest)
  | _, _, 0, _, _, deep => by simp [fieldsCost] at deep
  | (name, value), [], fuel + 1, rest, native, deep => by
      have inner : cost value ≤ fuel := by
        simp only [fieldsCost] at deep
        omega
      have read := readValue_laid l depth value _ native.1 inner (ends_gap (l.line_gap outer) (ends_brace rest))
      rw [laidFields, List.append_assoc, List.append_assoc, readFields_gap (l.line_gap depth), readFields]
      simp [quoted, skipGaps_cons, isGap, readText_quoted, readValue_gap l.space_gap, read, skipGaps_append (l.line_gap outer)]
  | (name, value), next :: fields, fuel + 1, rest, native, deep => by
      have inner : cost value ≤ fuel ∧ fieldsCost (next :: fields) ≤ fuel := by
        rw [fieldsCost] at deep
        omega
      have read := readValue_laid l depth value _ native.1 inner.1
        (ends_comma (laidFields l depth (next :: fields) ++ (l.line outer ++ '}' :: rest)))
      have others := readFields_laid l depth outer next fields rest native.2 inner.2
      rw [laidFields, List.append_assoc, List.append_assoc, readFields_gap (l.line_gap depth), readFields]
      simp [quoted, skipGaps_cons, isGap, readText_quoted, readValue_gap l.space_gap, read, others]
termination_by structural _ _ fuel => fuel
end

mutual
-- Every level and item takes a character, so the length bounds the depth.
theorem cost_le (l : Layout) (depth : Nat) : ∀ j, cost j + 1 ≤ 2 * (laid l depth j).length
  | .null => by simp [cost, laid]
  | .bool true => by simp [cost, laid]
  | .bool false => by simp [cost, laid]
  | .integer (.ofNat n) => by
      obtain ⟨c, cs, written, _⟩ := digits_cons n
      simp only [cost, laid, integerChars, written, List.length_cons]
      omega
  | .integer (.negSucc n) => by
      simp only [cost, laid, integerChars, List.length_cons]
      omega
  | .text s => by
      simp only [cost, laid, quoted, List.length_cons]
      omega
  | .list [] => by simp [cost, itemsCost, laid]
  | .list (item :: items) => by
      have inner := itemsCost_le l (depth + 1) (item :: items)
      simp only [cost, laid, List.length_cons, List.length_append] at inner ⊢
      omega
  | .record [] => by simp [cost, fieldsCost, laid]
  | .record (field :: fields) => by
      have inner := fieldsCost_le l (depth + 1) (field :: fields)
      simp only [cost, laid, List.length_cons, List.length_append] at inner ⊢
      omega
  | .foreign => by simp [cost, laid]
theorem itemsCost_le (l : Layout) (depth : Nat) : ∀ items, itemsCost items ≤ 2 * (laidItems l depth items).length
  | [] => by simp [itemsCost]
  | [item] => by
      have first := cost_le l depth item
      simp only [itemsCost, laidItems, List.length_append]
      omega
  | item :: next :: items => by
      have first := cost_le l depth item
      have others := itemsCost_le l depth (next :: items)
      rw [itemsCost, laidItems]
      simp only [List.length_append, List.length_cons]
      omega
theorem fieldsCost_le (l : Layout) (depth : Nat) : ∀ fields, fieldsCost fields ≤ 2 * (laidFields l depth fields).length
  | [] => by simp [fieldsCost]
  | [(_, value)] => by
      have first := cost_le l depth value
      simp only [fieldsCost, laidFields, List.length_append, List.length_cons]
      omega
  | (_, value) :: next :: fields => by
      have first := cost_le l depth value
      have others := fieldsCost_le l depth (next :: fields)
      rw [fieldsCost, laidFields]
      simp only [List.length_append, List.length_cons]
      omega
end

theorem read_laid (l : Layout) {j : Json} (native : Native j) : read (String.ofList (laid l 0 j)) = some j := by
  have deep : cost j ≤ 2 * (laid l 0 j).length + 2 := by
    have bound := cost_le l 0 j
    omega
  have whole := readValue_laid l 0 j [] native deep (fun _ none => by cases none)
  rw [List.append_nil] at whole
  simp [read, whole, skipGaps]

theorem read_compact {j : Json} (native : Native j) : read j.compact = some j := by
  rw [compact, ← laid_tight 0 j]
  exact read_laid .tight native

theorem read_indented {j : Json} (native : Native j) : read j.indented = some j := by
  rw [indented, ← laid_wide 0 j]
  exact read_laid .wide native

end Reading
end RegionWiring.Json
