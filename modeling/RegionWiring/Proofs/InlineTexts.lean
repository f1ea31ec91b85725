import Mathlib
import RegionWiring.Proofs.FloatTexts
import RegionWiring.Toml.Display
import RegionWiring.Toml.Strings

namespace RegionWiring.Toml

section Escapes

variable {c e : Char}

theorem shortEscape_facts (short : shortEscape e = some c) (rest : List Char) :
    e ≠ 'u' ∧ e ≠ 'U' ∧ endsLine (e :: rest) = false := by
  have listed : e ∈ ['"', '\\', 'b', 't', 'n', 'f', 'r'] := by
    by_contra other
    simp only [List.mem_cons, List.not_mem_nil, or_false, not_or] at other
    simp [shortEscape, other] at short
  simp only [List.mem_cons, List.not_mem_nil, or_false] at listed
  rcases listed with rfl | rfl | rfl | rfl | rfl | rfl | rfl <;> exact ⟨by decide, by decide, rfl⟩

theorem codedChar_hexFour {n : Nat} (small : n < 128) : codedChar (hexFour n) = some (Char.ofNat n) := by
  revert n
  decide

theorem escapeChar_cases (several : Bool) (c : Char) :
    (∃ e, shortEscape e = some c ∧ escapeChar several c = ['\\', e]) ∨
    (codedChar (hexFour c.toNat) = some c ∧ escapeChar several c = '\\' :: 'u' :: hexFour c.toNat) ∨
    (c ≠ '"' ∧ c ≠ '\\' ∧ (isTextChar c = true ∨ several = true ∧ c = '\n') ∧ escapeChar several c = [c]) := by
  have named {n : Nat} (same : c.toNat = n) : c = Char.ofNat n := by rw [← same, Char.ofNat_toNat]
  unfold escapeChar
  split
  · rename_i newline
    subst newline
    cases several with
    | true => exact .inr (.inr ⟨by decide, by decide, .inr ⟨rfl, rfl⟩, rfl⟩)
    | false => exact .inl ⟨'n', rfl, rfl⟩
  split
  · rename_i tab
    exact .inl ⟨'t', by rw [tab]; rfl, rfl⟩
  split
  · rename_i back
    exact .inl ⟨'r', by rw [back]; rfl, rfl⟩
  split
  · rename_i special
    exact .inl ⟨c, if_pos special, rfl⟩
  split
  · rename_i bell
    exact .inl ⟨'b', by rw [named bell]; rfl, rfl⟩
  split
  · rename_i feed
    exact .inl ⟨'f', by rw [named feed]; rfl, rfl⟩
  rename_i plain _ _
  split
  · rename_i control
    have low : c.toNat < 32 ∨ c.toNat = 127 := by simpa using control
    refine .inr (.inl ⟨?_, rfl⟩)
    rw [codedChar_hexFour (by omega), Char.ofNat_toNat]
  · rename_i visible
    have high : 32 ≤ c.toNat ∧ c.toNat ≠ 127 := by simpa using visible
    refine .inr (.inr ⟨?_, ?_, .inl (by simp [isTextChar, high]), rfl⟩)
    · rintro rfl
      exact plain rfl
    · rintro rfl
      exact plain rfl

theorem readBasic_escapeChar (c : Char) (tail : List Char) :
    readBasic (escapeChar false c ++ tail) = consChar (some c) (readBasic tail) := by
  rcases escapeChar_cases false c with ⟨e, short, written⟩ | ⟨coded, written⟩ | ⟨noQuote, noBackslash, visible, written⟩
  · obtain ⟨noHex, noLong, _⟩ := shortEscape_facts short []
    simp [written, readBasic, noHex, noLong, short]
  · simp only [hexFour, List.map] at coded
    simp [written, readBasic, hexFour, coded]
  · have shown : isTextChar c = true := visible.resolve_right fun newline => Bool.false_ne_true newline.1
    simp [written, readBasic, noBackslash, shown]

theorem readMultiBasic_escapeChar (c : Char) (tail : List Char) :
    readMultiBasic false (escapeChar true c ++ tail) = consChar (some c) (readMultiBasic false tail) := by
  rcases escapeChar_cases true c with ⟨e, short, written⟩ | ⟨coded, written⟩ | ⟨noQuote, noBackslash, visible, written⟩
  · obtain ⟨noHex, noLong, within⟩ := shortEscape_facts short tail
    simp [written, readMultiBasic, noHex, noLong, within, short]
  · simp only [hexFour, List.map] at coded
    simp [written, readMultiBasic, hexFour, coded]
  · have shown : isTextChar c = true ∨ c = '\n' := visible.imp_right And.right
    have noReturn : c ≠ '\r' := by
      rintro rfl
      revert shown
      decide
    simp [written, readMultiBasic, noQuote, noReturn, noBackslash, shown]

theorem readBasic_escaped (cs rest : List Char) : readBasic (cs.flatMap (escapeChar false) ++ '"' :: rest) = some (cs, rest) := by
  induction cs with
  | nil => simp [readBasic]
  | cons c cs ih =>
      rw [List.flatMap_cons, List.append_assoc, readBasic_escapeChar, ih]
      rfl

theorem readMultiBasic_escaped (cs : List Char) :
    readMultiBasic false (cs.flatMap (escapeChar true) ++ ['"', '"', '"']) = some (cs, []) := by
  induction cs with
  | nil => simp [readMultiBasic, closeTriple]
  | cons c cs ih =>
      rw [List.flatMap_cons, List.append_assoc, readMultiBasic_escapeChar, ih]
      rfl

end Escapes

section Literals

theorem readLiteral_plain {cs : List Char} (plain : ∀ c ∈ cs, isTextChar c = true ∧ c ≠ '\'') :
    readLiteral (cs ++ ['\'']) = some (cs, []) := by
  induction cs with
  | nil => simp [readLiteral]
  | cons c cs ih =>
      obtain ⟨⟨shown, noQuote⟩, others⟩ := List.forall_mem_cons.1 plain
      rw [List.cons_append, readLiteral, if_pos shown, ih others]
      · rfl
      · exact noQuote

theorem hasTriple_tail {c : Char} {cs : List Char} (free : hasTriple (c :: cs) = false) : hasTriple cs = false := by
  unfold hasTriple at free
  split at free
  · cases free
  · rename_i same
    cases same
    exact free
  · rename_i none
    cases none

-- Neither within nor at the end do the quotes come to three too early.
theorem apart_of_free {c : Char} {cs : List Char} (free : hasTriple (c :: cs) = false) (last : (c :: cs).getLast? ≠ some '\'')
    (rest : List Char) : c :: (cs ++ ['\'', '\'', '\'']) ≠ '\'' :: '\'' :: '\'' :: rest := by
  intro triple
  match cs with
  | [] => simp_all
  | [d] => simp_all
  | d :: e :: _ =>
      obtain ⟨rfl, rfl, rfl, _⟩ : c = '\'' ∧ d = '\'' ∧ e = '\'' ∧ _ := by simpa using triple
      cases free

theorem readMultiLiteral_plain {cs : List Char} (shown : ∀ c ∈ cs, c = '\n' ∨ isTextChar c = true) (free : hasTriple cs = false)
    (last : cs.getLast? ≠ some '\'') : readMultiLiteral (cs ++ ['\'', '\'', '\'']) = some (cs, []) := by
  induction cs with
  | nil => simp [readMultiLiteral, closeTriple]
  | cons c cs ih =>
      obtain ⟨first, others⟩ := List.forall_mem_cons.1 shown
      have apart := apart_of_free free last
      have noReturn : c ≠ '\r' := by
        rintro rfl
        revert first
        decide
      have behind : cs.getLast? ≠ some '\'' := by
        intro quote
        rw [List.getLast?_cons, quote] at last
        exact last rfl
      have later := ih others (hasTriple_tail free) behind
      rw [List.cons_append]
      unfold readMultiLiteral
      split
      · rename_i none
        cases none
      · rename_i triple
        exact absurd triple (apart _)
      · rename_i broken
        exact absurd (List.cons.inj broken).1 noReturn
      · rename_i same
        cases same
        rw [later, if_pos (by simpa using first.symm)]
        rfl

end Literals

section Strings

theorem readString_basicText (cs : List Char) : readString (basicText false cs) = some (cs, []) := by
  have single (rest : List Char) : cs.flatMap (escapeChar false) ++ ['"'] ≠ '"' :: '"' :: rest := by
    intro triple
    cases cs with
    | nil => cases triple
    | cons c cs =>
        rw [List.flatMap_cons, List.append_assoc] at triple
        rcases escapeChar_cases false c with ⟨e, _, written⟩ | ⟨_, written⟩ | ⟨noQuote, _, _, written⟩
        · rw [written] at triple
          cases triple
        · rw [written] at triple
          cases triple
        · rw [written] at triple
          exact noQuote (List.cons.inj triple).1
  show readString ('"' :: (cs.flatMap (escapeChar false) ++ ['"'])) = _
  rw [readString, readBasic_escaped]
  exact single

theorem readString_literal {cs : List Char} (plain : ∀ c ∈ cs, isTextChar c = true ∧ c ≠ '\'') (filled : cs ≠ []) :
    readString ('\'' :: cs ++ ['\'']) = some (cs, []) := by
  obtain ⟨c, rest, rfl⟩ := List.exists_cons_of_ne_nil filled
  have noQuote : c ≠ '\'' := (plain c List.mem_cons_self).2
  rw [List.cons_append, readString, readLiteral_plain plain]
  rintro rest same
  exact noQuote (List.cons.inj same).1

theorem dropFirstNewline_of_ne {c : Char} (noFeed : c ≠ '\n') (noReturn : c ≠ '\r') (rest : List Char) :
    dropFirstNewline (c :: rest) = c :: rest := by
  simp [dropFirstNewline, newline?, noFeed, noReturn]

theorem readString_writtenText (cs : List Char) : readString (writtenText cs) = some (cs, []) := by
  unfold writtenText
  dsimp only
  by_cases literal : prefersLiteral cs = true
  · rw [if_neg (by simp [literal])]
    obtain ⟨⟨⟨backslash, shown⟩, free⟩, last⟩ : ((cs.contains '\\' = true ∧ ∀ c ∈ cs, c = '\n' ∨ isTextChar c = true) ∧
        hasTriple cs = false) ∧ cs.getLast? ≠ some '\'' := by simpa [prefersLiteral] using literal
    have read := readMultiLiteral_plain shown free last
    cases several : cs.contains '\n' with
    | true => exact read
    | false =>
        have single : '\n' ∉ cs := by simpa using several
        have plain : ∀ c ∈ cs, isTextChar c = true := fun c inside =>
          (shown c inside).resolve_left fun newline => single (newline ▸ inside)
        have filled : cs ≠ [] := by
          rintro rfl
          cases backslash
        rw [if_neg Bool.false_ne_true]
        split
        · obtain ⟨c, rest, rfl⟩ := List.exists_cons_of_ne_nil filled
          have noFeed : c ≠ '\n' := fun newline => single (newline ▸ List.mem_cons_self)
          have noReturn : c ≠ '\r' := by
            rintro rfl
            exact absurd (plain _ List.mem_cons_self) (by decide)
          show readMultiLiteral (dropFirstNewline (c :: (rest ++ _))) = _
          rw [dropFirstNewline_of_ne noFeed noReturn]
          exact read
        · rename_i unquoted
          have noQuote : '\'' ∉ cs := by simpa using unquoted
          exact readString_literal (fun c inside => ⟨plain c inside, fun quote => noQuote (quote ▸ inside)⟩) filled
  · rw [if_pos (by simpa using literal)]
    cases several : cs.contains '\n' with
    | true => exact readMultiBasic_escaped cs
    | false => exact readString_basicText cs

theorem readSimpleKey_writtenKey (key : String) : readSimpleKey (writtenKey key) = some (key, []) := by
  unfold writtenKey
  dsimp only
  split
  · rename_i bare
    obtain ⟨filled, whole⟩ : key.toList ≠ [] ∧ ∀ c ∈ key.toList, isBareKeyChar c = true := by simpa using bare
    have taken : key.toList.takeWhile isBareKeyChar = key.toList := List.takeWhile_eq_self_iff.2 whole
    have left : key.toList.dropWhile isBareKeyChar = [] := List.dropWhile_eq_nil_iff.2 whole
    unfold readSimpleKey
    split
    · rename_i quote
      exact absurd (whole '"' (quote ▸ List.mem_cons_self)) (by decide)
    · rename_i quote
      exact absurd (whole '\'' (quote ▸ List.mem_cons_self)) (by decide)
    · dsimp only
      rw [taken, left, if_neg filled, String.ofList_toList]
  · show (readBasic (key.toList.flatMap (escapeChar false) ++ ['"'])).map _ = _
    rw [readBasic_escaped]
    simp

end Strings

-- Values of their own first, then arrays of tables, then tables.
def arranged (entries : Entries) : Entries :=
  entries.filter (fun entry => !entry.2.isTable && !entry.2.holdsTable) ++ entries.filter (fun entry => entry.2.holdsTable) ++
    entries.filter (fun entry => entry.2.isTable)

-- What stands within an array or a table.
mutual
inductive Inline : Toml → List Char → Prop where
  | text {s : String} {cs : List Char} (reads : readString cs = some (s.toList, [])) : Inline (.text s) cs
  | integer (n : Int) : Inline (.integer n) (toString n).toList
  | float {x : BinaryFraction} {s : String} (written : x.Written s) : Inline (.float x) s.toList
  | bool (b : Bool) : Inline (.bool b) (toString b).toList
  | moment (written : String) : Inline (.moment written) written.toList
  | array {items : List Toml} {texts : List (List Char)} (each : List.Forall₂ Inline items texts) :
      Inline (.array items) ('[' :: List.intercalate [',', ' '] texts ++ [']'])
  | noFields : Inline (.table []) ['{', '}']
  | table {entries : Entries} {texts : List (List Char)} (some : entries ≠ [])
      (each : List.Forall₂ InlineField (arranged entries) texts) :
      Inline (.table entries) ('{' :: ' ' :: List.intercalate [',', ' '] texts ++ [' ', '}'])
inductive InlineField : String × Toml → List Char → Prop where
  | mk {key : String} {value : Toml} {name text : List Char} (reads : readSimpleKey name = some (key, [])) (shown : Inline value text) :
      InlineField (key, value) (name ++ ' ' :: '=' :: ' ' :: text)
end

section Inline

theorem integerChars_eq (n : Int) : Json.integerChars n = (toString n).toList := by
  cases n with
  | ofNat n =>
      show Decimal.digits n = (Nat.repr n).toList
      rw [Nat.repr_eq_ofList_toDigits, String.toList_ofList]
      rfl
  | negSucc n =>
      show '-' :: Decimal.digits (n + 1) = ("-" ++ Nat.repr (n + 1)).toList
      simp only [Nat.repr_eq_ofList_toDigits, String.toList_append, String.toList_ofList]
      rfl

def writtenField (entry : String × Toml) : List Char := writtenKey entry.1 ++ ' ' :: '=' :: ' ' :: writtenValue entry.2

theorem writtenFields_eq (entries : Entries) : writtenFields entries =
    entries.map fun entry => ⟨if entry.2.isTable then 2 else if entry.2.holdsTable then 1 else 0, writtenField entry⟩ := by
  induction entries with
  | nil => rfl
  | cons entry rest ih => rw [List.map_cons, ← ih, writtenFields, writtenField]

theorem ordered_writtenFields (entries : Entries) : ordered (writtenFields entries) = (arranged entries).map writtenField := by
  have first (v : Toml) : ((if v.isTable then 2 else if v.holdsTable then 1 else 0) == 0) = (!v.isTable && !v.holdsTable) := by
    cases v.isTable <;> cases v.holdsTable <;> rfl
  have second (v : Toml) : ((if v.isTable then 2 else if v.holdsTable then 1 else 0) == 1) = v.holdsTable := by
    cases v with
    | array items =>
        show ((if items.any isTable then 1 else 0) == 1) = items.any isTable
        cases items.any isTable <;> rfl
    | text | integer | float | bool | moment | table => rfl
  have third (v : Toml) : ((if v.isTable then 2 else if v.holdsTable then 1 else 0) == 2) = v.isTable := by
    cases v.isTable <;> cases v.holdsTable <;> rfl
  rw [writtenFields_eq, ordered, arranged]
  simp [List.filter_map, Function.comp_def, first, second, third]

theorem mem_arranged (entries : Entries) (entry : String × Toml) : entry ∈ arranged entries ↔ entry ∈ entries := by
  simp only [arranged, List.mem_append, List.mem_filter, ← and_or_left, and_iff_left_iff_imp]
  intro _
  cases entry.2.isTable <;> cases entry.2.holdsTable <;> decide

theorem inline_table {entries : Entries} (each : ∀ entry ∈ entries, Inline entry.2 (writtenValue entry.2)) :
    Inline (.table entries) (braced (ordered (writtenFields entries))) := by
  rw [ordered_writtenFields]
  have fields : List.Forall₂ InlineField (arranged entries) ((arranged entries).map writtenField) := by
    rw [List.forall₂_map_right_iff, List.forall₂_same]
    intro entry inside
    exact .mk (readSimpleKey_writtenKey entry.1) (each entry ((mem_arranged entries entry).1 inside))
  by_cases none : entries = []
  · subst none
    exact .noFields
  · have some : (arranged entries).map writtenField ≠ [] := by
      obtain ⟨entry, inside⟩ := List.exists_mem_of_ne_nil entries none
      exact List.ne_nil_of_mem (List.mem_map_of_mem ((mem_arranged entries entry).2 inside))
    rw [braced, if_neg some]
    exact .table none fields

mutual
theorem inline_writtenValue : ∀ v : Toml, Inline v (writtenValue v)
  | .text s => .text (readString_writtenText s.toList)
  | .integer n => by
      rw [writtenValue, integerChars_eq]
      exact .integer n
  | .float x => .float x.written_render
  | .bool true => .bool true
  | .bool false => .bool false
  | .moment written => .moment written
  | .array items => .array (inline_writtenItems items)
  | .table entries => inline_table (inline_writtenFields entries)
theorem inline_writtenItems : ∀ items : List Toml, List.Forall₂ Inline items (writtenItems items)
  | [] => .nil
  | item :: rest => .cons (inline_writtenValue item) (inline_writtenItems rest)
theorem inline_writtenFields : ∀ entries : List (String × Toml), ∀ entry ∈ entries, Inline entry.2 (writtenValue entry.2)
  | [] => List.forall_mem_nil _
  | (_, value) :: rest => List.forall_mem_cons.2 ⟨inline_writtenValue value, inline_writtenFields rest⟩
end

end Inline

end RegionWiring.Toml
