import Mathlib.Data.List.Basic
import RegionWiring.Proofs.Lines
import RegionWiring.Proofs.Results
import RegionWiring.Version

namespace RegionWiring

namespace Text

section Cutting

variable {separator : Char} {before : List Char}

theorem cut_absent {cs : List Char} (absent : separator ∉ cs) : cut separator cs = none := by
  induction cs with
  | nil => rfl
  | cons c rest ih =>
      obtain ⟨other, later⟩ := not_or.1 (mt List.mem_cons.2 absent)
      rw [cut, if_neg (Ne.symm other), ih later]
      rfl

theorem cut_separated (absent : separator ∉ before) (after : List Char) :
    cut separator (before ++ separator :: after) = some (before, after) := by
  induction before with
  | nil => exact if_pos rfl
  | cons c rest ih =>
      obtain ⟨other, later⟩ := not_or.1 (mt List.mem_cons.2 absent)
      rw [List.cons_append, cut, if_neg (Ne.symm other), ih later]
      rfl

theorem cut_cases (separator : Char) (cs : List Char) : separator ∉ cs ∨
    ∃ before after, cs = before ++ separator :: after ∧ separator ∉ before := by
  by_cases inside : separator ∈ cs
  · exact .inr (List.eq_append_cons_of_mem inside)
  · exact .inl inside

theorem cutUpTo_absent {cs : List Char} (absent : separator ∉ cs) (count : Nat) : cutUpTo separator count cs = [cs] := by
  cases count with
  | zero => rfl
  | succ count => rw [cutUpTo, cut_absent absent]

theorem cutUpTo_separated (absent : separator ∉ before) (count : Nat) (after : List Char) :
    cutUpTo separator (count + 1) (before ++ separator :: after) = before :: cutUpTo separator count after := by
  rw [cutUpTo, cut_separated absent]

end Cutting

end Text

namespace Version

structure Numeral (cs : List Char) (n : UInt32) : Prop where
  something : cs ≠ []
  digits : ∀ c ∈ cs, c.isDigit = true
  value : Nat.ofDigitChars 10 cs 0 = n.toNat

-- One plus sign may stand in front.
def Signed (cs : List Char) (n : UInt32) : Prop := ∃ digits, (cs = digits ∨ cs = '+' :: digits) ∧ Numeral digits n

structure Qualifier (cs : List Char) : Prop where
  something : cs ≠ []
  plain : ∀ c ∈ cs, c.isAlphanum = true ∨ c = '-' ∨ c = '_'

-- A missing number is zero.
inductive Spelled (numeral : List Char → UInt32 → Prop) : List Char → Version → Prop where
  | major {a : List Char} {x : UInt32} (first : numeral a x) : Spelled numeral a ⟨x, 0, 0, none⟩
  | minor {a b : List Char} {x y : UInt32} (first : numeral a x) (second : numeral b y) :
      Spelled numeral (a ++ '.' :: b) ⟨x, y, 0, none⟩
  | micro {a b c : List Char} {x y z : UInt32} (first : numeral a x) (second : numeral b y) (third : numeral c z) :
      Spelled numeral (a ++ '.' :: (b ++ '.' :: c)) ⟨x, y, z, none⟩
  | qualified {a b c q : List Char} {x y z : UInt32} (first : numeral a x) (second : numeral b y) (third : numeral c z)
      (last : Qualifier q) : Spelled numeral (a ++ '.' :: (b ++ '.' :: (c ++ '.' :: q))) ⟨x, y, z, some (String.ofList q)⟩

section Numbers

variable {cs : List Char} {n : UInt32}

def wordOf (m : Nat) : Option UInt32 := if m < 4294967296 then some (UInt32.ofNat m) else none

def unsigned : List Char → List Char
  | '+' :: rest => rest
  | cs => cs

theorem unsigned_eq_self (other : ∀ rest, cs ≠ '+' :: rest) : unsigned cs = cs := by
  unfold unsigned
  split
  · exact absurd rfl (other _)
  · rfl

theorem readWord_eq (cs : List Char) : Decimal.readWord cs = (Decimal.read (unsigned cs)).bind wordOf := by
  unfold Decimal.readWord
  split
  · rfl
  · rename_i other
    rw [unsigned_eq_self other]
    rfl

theorem wordOf_eq_some_iff {m : Nat} : wordOf m = some n ↔ m = n.toNat := by
  unfold wordOf
  constructor
  · intro given
    split at given
    · rename_i small
      rw [← Option.some.inj given, UInt32.toNat_ofNat_of_lt' small]
    · cases given
  · rintro rfl
    rw [if_pos n.toNat_lt, UInt32.ofNat_toNat]

theorem readDigits_eq_some_iff {m : Nat} :
    Decimal.read cs = some m ↔ cs ≠ [] ∧ (∀ c ∈ cs, c.isDigit = true) ∧ Decimal.value cs = m := by
  have written : (decide (cs ≠ []) && cs.all Char.isDigit) = true ↔ cs ≠ [] ∧ ∀ c ∈ cs, c.isDigit = true := by simp
  unfold Decimal.read
  constructor
  · intro given
    split at given
    · rename_i digits
      obtain ⟨something, each⟩ := written.1 digits
      exact ⟨something, each, Option.some.inj given⟩
    · cases given
  · rintro ⟨something, digits, rfl⟩
    exact if_pos (written.2 ⟨something, digits⟩)

theorem numeral_iff : (Decimal.read cs).bind wordOf = some n ↔ Numeral cs n := by
  rw [Option.bind_eq_some_iff]
  constructor
  · rintro ⟨m, read, word⟩
    obtain ⟨something, digits, value⟩ := readDigits_eq_some_iff.1 read
    exact ⟨something, digits, value.trans (wordOf_eq_some_iff.1 word)⟩
  · intro numeral
    exact ⟨n.toNat, readDigits_eq_some_iff.2 ⟨numeral.something, numeral.digits, numeral.value⟩, wordOf_eq_some_iff.2 rfl⟩

theorem Numeral.unsigned_eq (numeral : Numeral cs n) : unsigned cs = cs := by
  apply unsigned_eq_self
  rintro rest rfl
  exact absurd (numeral.digits '+' List.mem_cons_self) (by decide)

theorem signed_iff : Signed cs n ↔ Numeral (unsigned cs) n := by
  constructor
  · rintro ⟨digits, rfl | rfl, numeral⟩
    · rwa [numeral.unsigned_eq]
    · exact numeral
  · intro numeral
    refine ⟨unsigned cs, ?_, numeral⟩
    unfold unsigned
    split
    · exact .inr rfl
    · exact .inl rfl

theorem readWord_eq_some_iff : Decimal.readWord cs = some n ↔ Signed cs n := by
  rw [readWord_eq, numeral_iff, signed_iff]

theorem signed_plain_iff (plain : '+' ∉ cs) : Signed cs n ↔ Numeral cs n := by
  constructor
  · rintro ⟨digits, rfl | rfl, numeral⟩
    · exact numeral
    · exact absurd List.mem_cons_self plain
  · intro numeral
    exact ⟨cs, .inl rfl, numeral⟩

end Numbers

section Pieces

theorem isQualifierChar_iff {c : Char} : isQualifierChar c = true ↔ c.isAlphanum = true ∨ c = '-' ∨ c = '_' := by
  simp [isQualifierChar, or_assoc]

theorem all_isQualifierChar_iff {cs : List Char} :
    cs.all isQualifierChar = true ↔ ∀ c ∈ cs, c.isAlphanum = true ∨ c = '-' ∨ c = '_' := by
  simp only [List.all_eq_true, isQualifierChar_iff]

def Numbered : Option (List Char) → UInt32 → Prop
  | none, n => n = 0
  | some piece, n => Signed piece n

def Qualified : Option (List Char) → Option String → Prop
  | none, q => q = none
  | some piece, q => Qualifier piece ∧ q = some (String.ofList piece)

variable {pieces : List (List Char)} {v : Version}

theorem number_eq_ok_iff {index : Nat} {defect : VersionDefect} {n : UInt32} :
    number pieces index defect = .ok n ↔ Numbered pieces[index]? n := by
  unfold number
  cases pieces[index]? with
  | none => simp [Numbered, eq_comm]
  | some piece =>
      dsimp only
      rw [Numbered, ← readWord_eq_some_iff]
      split <;> simp [*]

theorem qualifierOf_eq_ok_iff {q : Option String} : qualifierOf pieces = .ok q ↔ Qualified pieces[3]? q := by
  unfold qualifierOf
  cases pieces[3]? with
  | none => simp [Qualified, eq_comm]
  | some piece =>
      cases piece with
      | nil =>
          constructor
          · intro refused
            cases refused
          · intro qualified
            exact absurd rfl qualified.1.something
      | cons c rest =>
          dsimp only
          rw [Qualified]
          constructor
          · intro accepted
            split at accepted
            · rename_i plain
              exact ⟨⟨List.cons_ne_nil c rest, all_isQualifierChar_iff.1 plain⟩, (Except.ok.inj accepted).symm⟩
            · cases accepted
          · rintro ⟨qualifier, rfl⟩
            exact if_pos (all_isQualifierChar_iff.2 qualifier.plain)

theorem ofPieces_eq_ok_iff : ofPieces pieces = .ok v ↔
    Numbered pieces[0]? v.major ∧ Numbered pieces[1]? v.minor ∧ Numbered pieces[2]? v.micro ∧ Qualified pieces[3]? v.qualifier := by
  unfold ofPieces
  constructor
  · intro read
    obtain ⟨x, first, read⟩ := bind_eq_ok_iff.1 read
    obtain ⟨y, second, read⟩ := bind_eq_ok_iff.1 read
    obtain ⟨z, third, read⟩ := bind_eq_ok_iff.1 read
    obtain ⟨q, last, read⟩ := bind_eq_ok_iff.1 read
    have same : ⟨x, y, z, q⟩ = v := Except.ok.inj read
    rw [← same]
    exact ⟨number_eq_ok_iff.1 first, number_eq_ok_iff.1 second, number_eq_ok_iff.1 third, qualifierOf_eq_ok_iff.1 last⟩
  · rintro ⟨first, second, third, last⟩
    rw [number_eq_ok_iff.2 first, number_eq_ok_iff.2 second, number_eq_ok_iff.2 third, qualifierOf_eq_ok_iff.2 last]
    rfl

end Pieces

section Reading

variable {cs : List Char} {v : Version} {numeral numeral' : List Char → UInt32 → Prop}

theorem between_of_isAlphanum {c : Char} (plain : c.isAlphanum = true) : 0x20 < c.toNat ∧ c.toNat < 0x80 := by
  have kinds : (c.isUpper = true ∨ c.isLower = true) ∨ c.isDigit = true :=
    (Bool.or_eq_true_iff.1 plain).imp_left Bool.or_eq_true_iff.1
  have within {first last : Char} (low : first.val ≤ c.val) (high : c.val ≤ last.val) (least : 0x20 < first.toNat)
      (most : last.toNat < 0x80) : 0x20 < c.toNat ∧ c.toNat < 0x80 :=
    ⟨Nat.lt_of_lt_of_le least (UInt32.le_iff_toNat_le.1 low), Nat.lt_of_le_of_lt (UInt32.le_iff_toNat_le.1 high) most⟩
  rcases kinds with (upper | lower) | digit
  · have bounds : 'A'.val ≤ c.val ∧ c.val ≤ 'Z'.val := of_decide_eq_true upper
    exact within bounds.1 bounds.2 (by decide) (by decide)
  · have bounds := Bool.and_eq_true_iff.1 lower
    exact within (of_decide_eq_true bounds.1) (of_decide_eq_true bounds.2) (by decide) (by decide)
  · have bounds := Bool.and_eq_true_iff.1 digit
    exact within (of_decide_eq_true bounds.1) (of_decide_eq_true bounds.2) (by decide) (by decide)

theorem visible_of_isQualifierChar {c : Char} (plain : isQualifierChar c = true) : Text.isBlank c = false := by
  have between : 0x20 < c.toNat ∧ c.toNat < 0x80 := by
    rcases isQualifierChar_iff.1 plain with alphanumeric | rfl | rfl
    · exact between_of_isAlphanum alphanumeric
    · decide
    · decide
  simp [Text.isBlank]
  omega

theorem Numeral.chars {n : UInt32} (numeral : Numeral cs n) : ∀ c ∈ cs, isQualifierChar c = true := by
  intro c inside
  exact isQualifierChar_iff.2 (.inl (Bool.or_eq_true_iff.2 (.inr (numeral.digits c inside))))

theorem Numeral.lacks {n : UInt32} (numeral : Numeral cs n) {d : Char} (other : isQualifierChar d = false) : d ∉ cs := by
  intro inside
  rw [numeral.chars d inside] at other
  cases other

theorem Signed.undotted {n : UInt32} (signed : Signed cs n) : '.' ∉ cs := by
  obtain ⟨digits, parts, numeral⟩ := signed
  have absent : '.' ∉ digits := numeral.lacks (by decide)
  rcases parts with rfl | rfl
  · exact absent
  · simp [absent]

theorem Spelled.imp (spelled : Spelled numeral cs v)
    (each : ∀ (a : List Char) (x : UInt32), (∀ c ∈ a, c ∈ cs) → numeral a x → numeral' a x) : Spelled numeral' cs v := by
  cases spelled with
  | major first => exact .major (each _ _ (fun _ inside => inside) first)
  | minor first second =>
      refine .minor (each _ _ ?_ first) (each _ _ ?_ second)
      all_goals
        intro c inside
        simp [inside]
  | micro first second third =>
      refine .micro (each _ _ ?_ first) (each _ _ ?_ second) (each _ _ ?_ third)
      all_goals
        intro c inside
        simp [inside]
  | qualified first second third last =>
      refine .qualified (each _ _ ?_ first) (each _ _ ?_ second) (each _ _ ?_ third) last
      all_goals
        intro c inside
        simp [inside]

theorem Spelled.chars (spelled : Spelled numeral cs v) {p : Char → Prop} (dot : p '.')
    (qualifier : ∀ c, isQualifierChar c = true → p c) (each : ∀ a x, numeral a x → ∀ c ∈ a, p c) : ∀ c ∈ cs, p c := by
  cases spelled with
  | major first => exact each _ _ first
  | minor first second =>
      exact List.forall_mem_append.2 ⟨each _ _ first, List.forall_mem_cons.2 ⟨dot, each _ _ second⟩⟩
  | micro first second third =>
      exact List.forall_mem_append.2 ⟨each _ _ first, List.forall_mem_cons.2 ⟨dot,
        List.forall_mem_append.2 ⟨each _ _ second, List.forall_mem_cons.2 ⟨dot, each _ _ third⟩⟩⟩⟩
  | qualified first second third last =>
      exact List.forall_mem_append.2 ⟨each _ _ first, List.forall_mem_cons.2 ⟨dot,
        List.forall_mem_append.2 ⟨each _ _ second, List.forall_mem_cons.2 ⟨dot,
          List.forall_mem_append.2 ⟨each _ _ third, List.forall_mem_cons.2 ⟨dot,
            fun c inside => qualifier c (isQualifierChar_iff.2 (last.plain c inside))⟩⟩⟩⟩⟩⟩

-- The first three dots separate the parts.
theorem ofPieces_cutUpTo_iff : ofPieces (Text.cutUpTo '.' 3 cs) = .ok v ↔ Spelled Signed cs v := by
  constructor
  · intro read
    obtain ⟨x, y, z, q⟩ := v
    rcases Text.cut_cases '.' cs with absent | ⟨a, rest, rfl, undotted⟩
    · rw [Text.cutUpTo_absent absent, ofPieces_eq_ok_iff] at read
      obtain ⟨first, rfl, rfl, rfl⟩ := read
      exact .major first
    · rw [Text.cutUpTo_separated undotted] at read
      rcases Text.cut_cases '.' rest with absent | ⟨b, rest, rfl, undotted⟩
      · rw [Text.cutUpTo_absent absent, ofPieces_eq_ok_iff] at read
        obtain ⟨first, second, rfl, rfl⟩ := read
        exact .minor first second
      · rw [Text.cutUpTo_separated undotted] at read
        rcases Text.cut_cases '.' rest with absent | ⟨c, rest, rfl, undotted⟩
        · rw [Text.cutUpTo_absent absent, ofPieces_eq_ok_iff] at read
          obtain ⟨first, second, third, rfl⟩ := read
          exact .micro first second third
        · rw [Text.cutUpTo_separated undotted, ofPieces_eq_ok_iff] at read
          obtain ⟨first, second, third, last, rfl⟩ := read
          exact .qualified first second third last
  · intro spelled
    cases spelled with
    | major first =>
        rw [Text.cutUpTo_absent first.undotted, ofPieces_eq_ok_iff]
        exact ⟨first, rfl, rfl, rfl⟩
    | minor first second =>
        rw [Text.cutUpTo_separated first.undotted, Text.cutUpTo_absent second.undotted, ofPieces_eq_ok_iff]
        exact ⟨first, second, rfl, rfl⟩
    | micro first second third =>
        rw [Text.cutUpTo_separated first.undotted, Text.cutUpTo_separated second.undotted,
          Text.cutUpTo_absent third.undotted, ofPieces_eq_ok_iff]
        exact ⟨first, second, third, rfl⟩
    | qualified first second third last =>
        rw [Text.cutUpTo_separated first.undotted, Text.cutUpTo_separated second.undotted,
          Text.cutUpTo_separated third.undotted, ofPieces_eq_ok_iff]
        exact ⟨first, second, third, last, rfl⟩

theorem read_iff {s : String} : read s = .ok v ↔ Spelled Signed (Text.trim s.toList) v := by
  rw [← ofPieces_cutUpTo_iff]
  unfold read
  dsimp only
  split
  · rename_i empty
    rw [empty]
    constructor
    · intro refused
      cases refused
    · intro refused
      cases refused
  · exact mapError_eq_ok_iff

theorem spelled_numeral_iff : Spelled Numeral cs v ↔ Spelled Signed cs v ∧ '+' ∉ cs := by
  constructor
  · intro spelled
    refine ⟨spelled.imp fun a x _ numeral => ⟨a, .inl rfl, numeral⟩, fun inside => ?_⟩
    refine spelled.chars (p := (· ≠ '+')) (by decide) ?_ ?_ '+' inside rfl
    · rintro c plain rfl
      cases plain
    · rintro a x numeral c inNumeral rfl
      exact numeral.lacks (by decide) inNumeral
  · rintro ⟨spelled, unsigned⟩
    exact spelled.imp fun a x parts signed => (signed_plain_iff fun inside => unsigned (parts '+' inside)).1 signed

end Reading

-- A plus sign in front of a number is the only addition to the grammar.
theorem read_eq_ok_iff_spelled (s : String) (v : Version) :
    (read s = .ok v ↔ Spelled Signed (Text.trim s.toList) v) ∧
    (Spelled Numeral (Text.trim s.toList) v ↔ read s = .ok v ∧ '+' ∉ Text.trim s.toList) := by
  refine ⟨read_iff, ?_⟩
  rw [read_iff]
  exact spelled_numeral_iff

-- Plus is passed over, minus is refused.
theorem plus_sign_accepted : read "+1" = .ok ⟨1, 0, 0, none⟩ ∧ (¬ ∃ v, Spelled Numeral (Text.trim "+1".toList) v) ∧
    read "-1" = .error ⟨"-1", .invalidMajor⟩ := by
  refine ⟨by decide +kernel, ?_, by decide +kernel⟩
  rintro ⟨v, spelled⟩
  exact (spelled_numeral_iff.1 spelled).2 (by decide +kernel)

section Rendering

variable {v : Version}

def Readable (v : Version) : Prop := ∀ q, v.qualifier = some q → Qualifier q.toList

theorem Spelled.readable {numeral : List Char → UInt32 → Prop} {cs : List Char} (spelled : Spelled numeral cs v) : Readable v := by
  intro q given
  cases spelled with
  | major => cases given
  | minor => cases given
  | micro => cases given
  | qualified _ _ _ last =>
      cases given
      rwa [String.toList_ofList]

theorem readable_of_read {s : String} (accepted : read s = .ok v) : Readable v := (read_iff.1 accepted).readable

theorem numeral_digits (n : UInt32) : Numeral (Decimal.digits n.toNat) n := by
  rw [← numeral_iff, Decimal.read_digits]
  exact wordOf_eq_some_iff.2 rfl

variable (readable : Readable v)
include readable

theorem spelled_render : Spelled Numeral v.render.toList v := by
  obtain ⟨major, minor, micro, qualifier⟩ := v
  have dot : ".".toList = ['.'] := rfl
  cases qualifier with
  | none =>
      have numbers : (render ⟨major, minor, micro, none⟩).toList =
          Decimal.digits major.toNat ++ '.' :: (Decimal.digits minor.toNat ++ '.' :: Decimal.digits micro.toNat) := by
        simp [render, Decimal.render, dot]
      rw [numbers]
      exact .micro (numeral_digits major) (numeral_digits minor) (numeral_digits micro)
  | some q =>
      have all : (render ⟨major, minor, micro, some q⟩).toList = Decimal.digits major.toNat ++ '.' ::
          (Decimal.digits minor.toNat ++ '.' :: (Decimal.digits micro.toNat ++ '.' :: q.toList)) := by
        simp [render, Decimal.render, dot]
      have spelled := Spelled.qualified (numeral_digits major) (numeral_digits minor) (numeral_digits micro) (readable q rfl)
      rw [String.ofList_toList] at spelled
      rwa [all]

theorem chars_render {p : Char → Prop} (dot : p '.') (qualifier : ∀ c, isQualifierChar c = true → p c) :
    ∀ c ∈ v.render.toList, p c :=
  (spelled_render readable).chars dot qualifier fun _ _ numeral c inside => qualifier c (numeral.chars c inside)

theorem trim_render : Text.trim v.render.toList = v.render.toList :=
  Text.trim_visible (chars_render readable (by decide) fun _ plain => visible_of_isQualifierChar plain)

theorem read_render : read v.render = .ok v := by
  rw [read_iff, trim_render readable]
  exact (spelled_numeral_iff.1 (spelled_render readable)).1

end Rendering

end Version
end RegionWiring
