namespace RegionWiring.Decimal

-- Written without leading zeros, read with any number of them.
def digits (n : Nat) : List Char := Nat.toDigits 10 n

def value (cs : List Char) : Nat := Nat.ofDigitChars 10 cs 0

def read (cs : List Char) : Option Nat := if cs ≠ [] && cs.all Char.isDigit then some (value cs) else none

-- One plus sign may stand in front.
def readWord (cs : List Char) : Option UInt32 := do
  let n ← read (match cs with | '+' :: rest => rest | _ => cs)
  if n < 4294967296 then some (UInt32.ofNat n) else none

def render (n : Nat) : String := String.ofList (digits n)

theorem digits_ne_nil (n : Nat) : digits n ≠ [] := Nat.toDigits_ne_nil

theorem isDigit_of_mem_digits {n : Nat} {c : Char} (inside : c ∈ digits n) : c.isDigit = true :=
  Nat.isDigit_of_mem_toDigits (by decide) (by decide) inside

theorem value_digits (n : Nat) : value (digits n) = n := Nat.ofDigitChars_toDigits (by decide) (by decide)

theorem read_digits (n : Nat) : read (digits n) = some n := by
  have each : (digits n).all Char.isDigit = true := List.all_eq_true.2 fun c => isDigit_of_mem_digits
  simp only [read, digits_ne_nil, each, ne_eq, not_false_eq_true, decide_true, Bool.and_self, if_true, value_digits]

theorem eq_zero_of_head?_digits {n : Nat} (zero : (digits n).head? = some '0') : n = 0 := by
  induction n using Nat.strongRecOn with
  | ind n ih =>
      rw [digits, Nat.toDigits_eq_if (by decide)] at zero
      split at zero
      · exact Nat.digitChar_eq_zero.1 (Option.some.inj zero)
      · rename_i large
        rw [List.head?_append, Option.or_eq_some_iff] at zero
        rcases zero with front | ⟨empty, _⟩
        · have none : n / 10 = 0 := ih (n / 10) (by omega) front
          omega
        · exact absurd (List.head?_eq_none_iff.1 empty) Nat.toDigits_ne_nil

end RegionWiring.Decimal
