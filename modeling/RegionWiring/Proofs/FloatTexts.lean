import Mathlib
import RegionWiring.Proofs.Numerals
import RegionWiring.Text.Binary

namespace RegionWiring.BinaryFraction

open Decimal (Numeral)

def magnitude (mantissa : Nat) (exponent : Int) : ℚ := mantissa * 2 ^ exponent

-- Below the least full mantissa the numbers are twice as dense.
def lowEnd (mantissa : Nat) (exponent : Int) : ℚ :=
  (mantissa - if mantissa = leastFull ∧ leastExponent < exponent then 1 / 4 else 1 / 2) * 2 ^ exponent

def highEnd (mantissa : Nat) (exponent : Int) : ℚ := (mantissa + 1 / 2) * 2 ^ exponent

-- The middle between two numbers goes to the even mantissa.
structure Rounds (mantissa : Nat) (exponent : Int) (q : ℚ) : Prop where
  low : lowEnd mantissa exponent ≤ q
  high : q ≤ highEnd mantissa exponent
  odd : mantissa % 2 = 1 → lowEnd mantissa exponent < q ∧ q < highEnd mantissa exponent

-- With one digit less nothing is rounded.
structure Shortest (mantissa : Nat) (exponent : Int) (q : ℚ) : Prop where
  rounds : Rounds mantissa exponent q
  fewest : ∃ (digits : Nat) (power : Int), q = digits * 10 ^ power ∧
    (10 < digits → ∀ coarser : Nat, ¬ Rounds mantissa exponent (coarser * 10 ^ (power + 1)))

variable {mantissa : Nat} {exponent : Int}

section Rounding

theorem rounds_of_near {q : ℚ} (near : |q - magnitude mantissa exponent| < 2 ^ exponent / 4) : Rounds mantissa exponent q := by
  obtain ⟨above, below⟩ := abs_lt.1 near
  have unit : (0 : ℚ) < 2 ^ exponent := by positivity
  have low : lowEnd mantissa exponent < q := by
    have quarter : lowEnd mantissa exponent ≤ magnitude mantissa exponent - 2 ^ exponent / 4 := by
      unfold lowEnd magnitude
      split <;> linarith
    linarith
  have high : q < highEnd mantissa exponent := by
    have half : highEnd mantissa exponent = magnitude mantissa exponent + 2 ^ exponent / 2 := by
      unfold highEnd magnitude
      ring
    linarith
  exact ⟨low.le, high.le, fun _ => ⟨low, high⟩⟩

theorem rounds_magnitude (mantissa : Nat) (exponent : Int) : Rounds mantissa exponent (magnitude mantissa exponent) := by
  refine rounds_of_near ?_
  rw [sub_self, abs_zero]
  positivity

theorem not_rounds_zero (positive : 0 < mantissa) (exponent : Int) : ¬ Rounds mantissa exponent 0 := by
  intro rounds
  have one : (1 : ℚ) ≤ mantissa := by exact_mod_cast positive
  have away : 0 < lowEnd mantissa exponent := by
    unfold lowEnd
    refine mul_pos ?_ (by positivity)
    split <;> linarith
  exact absurd rounds.low (not_le_of_gt away)

theorem Rounds.between {p q r : ℚ} (first : Rounds mantissa exponent p) (last : Rounds mantissa exponent r) (low : p ≤ q)
    (high : q ≤ r) : Rounds mantissa exponent q :=
  ⟨first.low.trans low, high.trans last.high, fun odd => ⟨(first.odd odd).1.trans_le low, high.trans_lt (last.odd odd).2⟩⟩

end Rounding

section Fractions

theorem scaled_eq (n base : Nat) (positive : 0 < base) (e : Int) :
    ∃ a b, scaled n base e = (a, b) ∧ 0 < b ∧ (a : ℚ) = n * (base : ℚ) ^ e * b := by
  unfold scaled
  split
  · rename_i upwards
    obtain ⟨count, rfl⟩ := Int.eq_ofNat_of_zero_le upwards
    refine ⟨_, _, rfl, Nat.one_pos, ?_⟩
    simp
  · obtain ⟨count, rfl⟩ : ∃ count : Nat, e = -(count : Int) := ⟨(-e).toNat, by omega⟩
    refine ⟨_, _, rfl, Nat.pow_pos positive, ?_⟩
    have nonzero : (base : ℚ) ^ count ≠ 0 := by positivity
    simp [mul_assoc, inv_mul_cancel₀ nonzero]

theorem le_lt_iff_of_scaled {m n : Nat} {x y scale : ℚ} (positive : 0 < scale) (first : (m : ℚ) = x * scale)
    (second : (n : ℚ) = y * scale) : (m ≤ n ↔ x ≤ y) ∧ (m < n ↔ x < y) := by
  constructor
  · rw [← Nat.cast_le (α := ℚ), first, second, mul_le_mul_iff_of_pos_right positive]
  · rw [← Nat.cast_lt (α := ℚ), first, second, mul_lt_mul_iff_of_pos_right positive]

theorem common_scale {exponent power : Int} {a b c d : Nat} (binary : scaled mantissa 2 exponent = (a, b))
    (decimal : scaled 1 10 power = (c, d)) :
    ∃ scale : ℚ, 0 < scale ∧ ((a * d : Nat) : ℚ) = magnitude mantissa exponent * scale ∧
      ((b * c : Nat) : ℚ) = 10 ^ power * scale := by
  obtain ⟨_, _, same, b_pos, a_eq⟩ := scaled_eq mantissa 2 (by decide) exponent
  cases binary.symm.trans same
  obtain ⟨_, _, same, d_pos, c_eq⟩ := scaled_eq 1 10 (by decide) power
  cases decimal.symm.trans same
  push_cast at a_eq c_eq
  refine ⟨b * d, by positivity, ?_, ?_⟩
  · push_cast
    rw [a_eq, magnitude]
    ring
  · push_cast
    rw [c_eq]
    ring

theorem division_eq {n m : Nat} {x unit scale : ℚ} (positive : 0 < scale) (spaced : 0 < unit) (number : (n : ℚ) = x * scale)
    (step : (m : ℚ) = unit * scale) :
    ∃ rest : ℚ, x = (n / m : Nat) * unit + rest ∧ 0 ≤ rest ∧ rest < unit ∧ (2 * (n % m) ≤ m ↔ 2 * rest ≤ unit) := by
  have m_pos : 0 < m := by
    have cast : (0 : ℚ) < m := by
      rw [step]
      positivity
    exact_mod_cast cast
  have scaled : ((n % m : Nat) : ℚ) = (n % m : Nat) / scale * scale := (div_mul_cancel₀ _ positive.ne').symm
  refine ⟨(n % m : Nat) / scale, ?_, by positivity, ?_, ?_⟩
  · have whole : (m : ℚ) * (n / m : Nat) + (n % m : Nat) = n := by exact_mod_cast Nat.div_add_mod n m
    rw [number, step] at whole
    field_simp
    linear_combination -whole
  · exact (le_lt_iff_of_scaled positive scaled step).2.1 (Nat.mod_lt n m_pos)
  · refine (le_lt_iff_of_scaled positive ?_ step).1
    rw [mul_assoc, ← scaled]
    push_cast
    rfl

-- The ends are counted in quarters of a unit.
theorem interval_eq (positive : 0 < mantissa) (exponent : Int) :
    ((interval mantissa exponent).low : ℚ) * 2 ^ exponent = 4 * lowEnd mantissa exponent ∧
      ((interval mantissa exponent).high : ℚ) * 2 ^ exponent = 4 * highEnd mantissa exponent ∧
      ((interval mantissa exponent).closed = true ↔ mantissa % 2 ≠ 1) := by
  have low (quarters : Nat) (few : quarters ≤ 2) : ((4 * mantissa - quarters : Nat) : ℚ) = 4 * mantissa - quarters := by
    rw [Nat.cast_sub (by omega)]
    push_cast
    rfl
  refine ⟨?_, ?_, ?_⟩
  · unfold interval lowEnd
    dsimp only
    by_cases narrow : mantissa = leastFull ∧ leastExponent < exponent
    · rw [if_pos (by simpa using narrow), if_pos narrow, low 1 (by decide)]
      push_cast
      ring
    · rw [if_neg (by simpa using narrow), if_neg narrow, low 2 (by decide)]
      push_cast
      ring
  · unfold interval highEnd
    push_cast
    ring
  · unfold interval
    simp only [beq_iff_eq]
    omega

-- Multiplied by four and by both denominators, all three are whole.
theorem inInterval_eq_true_iff (positive : 0 < mantissa) (digits : Nat) (power : Int) :
    inInterval (interval mantissa exponent) exponent digits power = true ↔ Rounds mantissa exponent (digits * 10 ^ power) := by
  obtain ⟨a, b, decimal, b_pos, a_eq⟩ := scaled_eq (4 * digits) 10 (by decide) power
  obtain ⟨c, d, binary, d_pos, c_eq⟩ := scaled_eq 1 2 (by decide) exponent
  obtain ⟨low_eq, high_eq, closed⟩ := interval_eq positive exponent
  unfold inInterval
  generalize interval mantissa exponent = i at *
  rw [decimal, binary]
  dsimp only
  push_cast at a_eq c_eq
  have scale : (0 : ℚ) < 4 * b * d := by positivity
  have candidate : ((a * d : Nat) : ℚ) = digits * 10 ^ power * (4 * b * d) := by
    push_cast
    rw [a_eq]
    ring
  have low : ((i.low * c * b : Nat) : ℚ) = lowEnd mantissa exponent * (4 * b * d) := by
    push_cast
    rw [c_eq]
    linear_combination b * d * low_eq
  have high : ((i.high * c * b : Nat) : ℚ) = highEnd mantissa exponent * (4 * b * d) := by
    push_cast
    rw [c_eq]
    linear_combination b * d * high_eq
  obtain ⟨low_le, low_lt⟩ := le_lt_iff_of_scaled scale low candidate
  obtain ⟨le_high, lt_high⟩ := le_lt_iff_of_scaled scale candidate high
  split
  · rename_i even
    simp only [Bool.and_eq_true, decide_eq_true_eq, low_le, le_high]
    exact ⟨fun both => ⟨both.1, both.2, fun odd => absurd odd (closed.1 even)⟩, fun rounds => ⟨rounds.low, rounds.high⟩⟩
  · rename_i odd
    simp only [Bool.and_eq_true, decide_eq_true_eq, low_lt, lt_high]
    exact ⟨fun both => ⟨both.1.le, both.2.le, fun _ => both⟩,
      fun rounds => rounds.odd (Classical.not_not.1 fun even => odd (closed.2 even))⟩

end Fractions

section Neighbours

-- The nearer one comes first.
theorem neighbours_eq (mantissa : Nat) (exponent power : Int) :
    ∃ below : Nat, below * (10 : ℚ) ^ power ≤ magnitude mantissa exponent ∧
      magnitude mantissa exponent < (below + 1 : Nat) * (10 : ℚ) ^ power ∧
      ∃ near far : Nat, neighbours mantissa exponent power = [near, far] ∧
        (near = below ∧ far = below + 1 ∨ near = below + 1 ∧ far = below) ∧
        |near * (10 : ℚ) ^ power - magnitude mantissa exponent| ≤ 10 ^ power / 2 := by
  rcases binary : scaled mantissa 2 exponent with ⟨a, b⟩
  rcases decimal : scaled 1 10 power with ⟨c, d⟩
  obtain ⟨scale, positive, number, step⟩ := common_scale binary decimal
  obtain ⟨rest, parts, least, less, half⟩ := division_eq positive (by positivity) number step
  have shown : neighbours mantissa exponent power = if 2 * (a * d % (b * c)) ≤ b * c then [a * d / (b * c), a * d / (b * c) + 1]
      else [a * d / (b * c) + 1, a * d / (b * c)] := by
    unfold neighbours
    rw [binary, decimal]
  generalize a * d / (b * c) = below at *
  refine ⟨below, by linarith, by push_cast; linarith, ?_⟩
  by_cases lower : 2 * (a * d % (b * c)) ≤ b * c
  · refine ⟨below, below + 1, by rw [shown, if_pos lower], .inl ⟨rfl, rfl⟩, ?_⟩
    have near := half.1 lower
    rw [parts, abs_le]
    constructor <;> linarith
  · refine ⟨below + 1, below, by rw [shown, if_neg lower], .inr ⟨rfl, rfl⟩, ?_⟩
    have near : 10 ^ power < 2 * rest := lt_of_not_ge fun less => lower (half.2 less)
    rw [parts, abs_le]
    push_cast
    constructor <;> linarith

theorem neighbours_of_multiple {power : Int} {multiple : Nat} (rounds : Rounds mantissa exponent (multiple * 10 ^ power)) :
    ∃ digits ∈ neighbours mantissa exponent power, Rounds mantissa exponent (digits * 10 ^ power) := by
  obtain ⟨below, under, above, near, far, both, order, _⟩ := neighbours_eq mantissa exponent power
  have members : below ∈ neighbours mantissa exponent power ∧ below + 1 ∈ neighbours mantissa exponent power := by
    rw [both]
    rcases order with ⟨rfl, rfl⟩ | ⟨rfl, rfl⟩ <;> simp
  have unit : (0 : ℚ) < 10 ^ power := by positivity
  rcases Nat.lt_or_ge below multiple with more | less
  · have smaller : ((below + 1 : Nat) : ℚ) ≤ multiple := by exact_mod_cast more
    exact ⟨below + 1, members.2,
      (rounds_magnitude mantissa exponent).between rounds above.le (mul_le_mul_of_nonneg_right smaller unit.le)⟩
  · have greater : (multiple : ℚ) ≤ below := by exact_mod_cast less
    exact ⟨below, members.1,
      rounds.between (rounds_magnitude mantissa exponent) (mul_le_mul_of_nonneg_right greater unit.le) under⟩

theorem find?_neighbours (positive : 0 < mantissa) (exponent power : Int) :
    (∃ digits ∈ neighbours mantissa exponent power, Rounds mantissa exponent (digits * 10 ^ power) ∧
      (neighbours mantissa exponent power).find? (inInterval (interval mantissa exponent) exponent · power) = some digits) ∨
    (∀ multiple : Nat, ¬ Rounds mantissa exponent (multiple * 10 ^ power)) ∧
      (neighbours mantissa exponent power).find? (inInterval (interval mantissa exponent) exponent · power) = none := by
  cases first : (neighbours mantissa exponent power).find? (inInterval (interval mantissa exponent) exponent · power) with
  | some digits =>
      have inside := List.find?_some (p := (inInterval (interval mantissa exponent) exponent · power)) first
      exact .inl ⟨digits, List.mem_of_find?_eq_some first, (inInterval_eq_true_iff positive digits power).1 inside, rfl⟩
  | none =>
      refine .inr ⟨fun multiple rounds => ?_, rfl⟩
      obtain ⟨digits, listed, also⟩ := neighbours_of_multiple rounds
      exact List.find?_eq_none.1 first digits listed ((inInterval_eq_true_iff positive digits power).2 also)

end Neighbours

section DecimalMagnitude

theorem pow_length_bounds {n : Nat} (positive : 0 < n) :
    (10 : ℚ) ^ ((Decimal.digits n).length - 1 : Int) ≤ n ∧ (n : ℚ) < 10 ^ ((Decimal.digits n).length : Int) := by
  obtain ⟨count, counted⟩ : ∃ count, (Decimal.digits n).length = count + 1 :=
    ⟨_, (Nat.succ_pred_eq_of_pos (List.length_pos_of_ne_nil (Decimal.digits_ne_nil n))).symm⟩
  have low := Decimal.pow_length_digits_le positive
  have high := Decimal.lt_pow_length_digits n
  rw [counted] at low high ⊢
  constructor
  · rw [Nat.cast_succ, add_sub_cancel_right, zpow_natCast]
    exact_mod_cast low
  · rw [zpow_natCast]
    exact_mod_cast high

theorem fraction_bounds {a b : Nat} (a_pos : 0 < a) (b_pos : 0 < b) :
    let guess : Int := (Decimal.digits a).length - (Decimal.digits b).length
    (10 : ℚ) ^ (guess - 1) < a / b ∧ (a : ℚ) / b < 10 ^ (guess + 1) := by
  intro guess
  obtain ⟨a_low, a_high⟩ := pow_length_bounds a_pos
  obtain ⟨b_low, b_high⟩ := pow_length_bounds b_pos
  have b_cast : (0 : ℚ) < b := by exact_mod_cast b_pos
  have nonzero : (10 : ℚ) ≠ 0 := by norm_num
  constructor
  · rw [lt_div_iff₀ b_cast]
    calc (10 : ℚ) ^ (guess - 1) * b < 10 ^ (guess - 1) * 10 ^ ((Decimal.digits b).length : Int) :=
          mul_lt_mul_of_pos_left b_high (by positivity)
      _ = 10 ^ ((Decimal.digits a).length - 1 : Int) := by
          rw [← zpow_add₀ nonzero, show guess - 1 + (Decimal.digits b).length = (Decimal.digits a).length - 1 by omega]
      _ ≤ a := a_low
  · rw [div_lt_iff₀ b_cast]
    calc (a : ℚ) < 10 ^ ((Decimal.digits a).length : Int) := a_high
      _ = 10 ^ (guess + 1) * 10 ^ ((Decimal.digits b).length - 1 : Int) := by
          rw [← zpow_add₀ nonzero, show guess + 1 + ((Decimal.digits b).length - 1) = (Decimal.digits a).length by omega]
      _ ≤ 10 ^ (guess + 1) * b := mul_le_mul_of_nonneg_left b_low (by positivity)

theorem decimalMagnitude_bounds (positive : 0 < mantissa) (exponent : Int) :
    (10 : ℚ) ^ (decimalMagnitude mantissa exponent - 1) ≤ magnitude mantissa exponent ∧
      magnitude mantissa exponent < 10 ^ decimalMagnitude mantissa exponent := by
  obtain ⟨a, b, binary, b_pos, a_eq⟩ := scaled_eq mantissa 2 (by decide) exponent
  have b_cast : (0 : ℚ) < b := by exact_mod_cast b_pos
  have quotient : (a : ℚ) / b = magnitude mantissa exponent := by
    rw [a_eq]
    exact mul_div_cancel_right₀ _ b_cast.ne'
  have a_pos : 0 < a := by
    have cast : (0 : ℚ) < a := by
      rw [a_eq]
      positivity
    exact_mod_cast cast
  obtain ⟨low, high⟩ := fraction_bounds a_pos b_pos
  rw [quotient] at low high
  unfold decimalMagnitude
  rw [binary]
  dsimp only
  generalize ((Decimal.digits a).length : Int) - (Decimal.digits b).length = guess at *
  rcases decimal : scaled 1 10 guess with ⟨c, d⟩
  dsimp only
  obtain ⟨scale, positive, number, step⟩ := common_scale binary decimal
  have reached := (le_lt_iff_of_scaled positive step number).1
  split
  · rename_i full
    rw [add_sub_cancel_right]
    exact ⟨reached.1 full, high⟩
  · rename_i less
    exact ⟨low.le, lt_of_not_ge fun more => less (reached.2 more)⟩

end DecimalMagnitude

section Search

-- A mantissa has 53 bits, so eighteen digits are closer together than the ends.
theorem rounds_at_eighteen (positive : 0 < mantissa) (fits : mantissa < 9007199254740992) (exponent : Int) :
    ∃ digits : Nat, Rounds mantissa exponent (digits * 10 ^ (decimalMagnitude mantissa exponent - (18 : Nat))) := by
  obtain ⟨_, _, _, near, _, _, _, close⟩ := neighbours_eq mantissa exponent (decimalMagnitude mantissa exponent - (18 : Nat))
  refine ⟨near, rounds_of_near (close.trans_lt ?_)⟩
  have size : (mantissa : ℚ) < 9007199254740992 := by exact_mod_cast fits
  have unit : (0 : ℚ) < 2 ^ exponent := by positivity
  have spacing : (10 : ℚ) ^ (decimalMagnitude mantissa exponent - (18 : Nat)) * 10 ^ 17 =
      10 ^ (decimalMagnitude mantissa exponent - 1) := by
    rw [← zpow_natCast, ← zpow_add₀ (by norm_num)]
    congr 1
    push_cast
    ring
  have first := (decimalMagnitude_bounds positive exponent).1
  have last : magnitude mantissa exponent < 9007199254740992 * 2 ^ exponent := mul_lt_mul_of_pos_right size unit
  generalize (10 : ℚ) ^ (decimalMagnitude mantissa exponent - (18 : Nat)) = step at *
  rw [← spacing] at first
  linarith

-- Fewer than `count` digits are not enough.
def Passed (mantissa : Nat) (exponent : Int) (count : Nat) : Prop :=
  count = 1 ∨ ∀ coarser : Nat, ¬ Rounds mantissa exponent (coarser * 10 ^ (decimalMagnitude mantissa exponent - count + 1))

theorem shortest_of_neighbour (positive : 0 < mantissa) {count digits : Nat} (passed : Passed mantissa exponent count)
    (inside : digits ∈ neighbours mantissa exponent (decimalMagnitude mantissa exponent - count))
    (rounds : Rounds mantissa exponent (digits * 10 ^ (decimalMagnitude mantissa exponent - count))) :
    Shortest mantissa exponent (digits * 10 ^ (decimalMagnitude mantissa exponent - count)) := by
  refine ⟨rounds, digits, _, rfl, fun large => ?_⟩
  rcases passed with rfl | none
  · -- the only digit is at most ten
    exfalso
    obtain ⟨below, under, _, near, far, both, order, _⟩ :=
      neighbours_eq mantissa exponent (decimalMagnitude mantissa exponent - (1 : Nat))
    have few : below < 10 := by
      have unit : (0 : ℚ) < 10 ^ (decimalMagnitude mantissa exponent - 1) := by positivity
      have less : (below : ℚ) * 10 ^ (decimalMagnitude mantissa exponent - 1) <
          10 * 10 ^ (decimalMagnitude mantissa exponent - 1) :=
        calc (below : ℚ) * 10 ^ (decimalMagnitude mantissa exponent - 1) ≤ magnitude mantissa exponent := under
          _ < 10 ^ decimalMagnitude mantissa exponent := (decimalMagnitude_bounds positive exponent).2
          _ = 10 * 10 ^ (decimalMagnitude mantissa exponent - 1) := by
              rw [← zpow_one_add₀ (by norm_num), add_sub_cancel]
      exact_mod_cast lt_of_mul_lt_mul_right less unit.le
    rw [both] at inside
    rcases order with ⟨rfl, rfl⟩ | ⟨rfl, rfl⟩ <;> simp at inside <;> omega
  · exact none

theorem shortestFrom_eq (positive : 0 < mantissa) (fits : mantissa < 9007199254740992) (exponent : Int) (fuel count : Nat)
    (last : count + fuel = 18) (passed : Passed mantissa exponent count) :
    ∃ digits power, shortestFrom fuel count mantissa exponent (decimalMagnitude mantissa exponent) = (digits, power) ∧
      Shortest mantissa exponent (digits * 10 ^ power) := by
  induction fuel generalizing count with
  | zero =>
      obtain rfl : count = 18 := last
      unfold shortestFrom
      dsimp only
      rcases find?_neighbours positive exponent (decimalMagnitude mantissa exponent - (18 : Nat)) with
        ⟨digits, inside, rounds, first⟩ | ⟨none, _⟩
      · rw [first]
        exact ⟨_, _, rfl, shortest_of_neighbour positive passed inside rounds⟩
      · obtain ⟨digits, rounds⟩ := rounds_at_eighteen positive fits exponent
        exact absurd rounds (none digits)
  | succ fuel ih =>
      unfold shortestFrom
      dsimp only
      rcases find?_neighbours positive exponent (decimalMagnitude mantissa exponent - count) with
        ⟨digits, inside, rounds, first⟩ | ⟨none, nothing⟩
      · rw [first]
        exact ⟨_, _, rfl, shortest_of_neighbour positive passed inside rounds⟩
      · rw [nothing]
        have coarser : decimalMagnitude mantissa exponent - (count + 1 : Nat) + 1 = decimalMagnitude mantissa exponent - count := by
          push_cast
          ring
        exact ih (count + 1) (by omega) (.inr (coarser ▸ none))

end Search

inductive Written : BinaryFraction → String → Prop where
  | notANumber : Written .notANumber "nan"
  | infinite : Written (.infinite false) "inf"
  | negativelyInfinite : Written (.infinite true) "-inf"
  | zero {negative : Bool} {exponent : Int} (n : Numeral) (none : n.value = 0) :
      Written (.finite negative 0 exponent) ((if negative then "-" else "") ++ String.ofList n.chars)
  | finite {negative : Bool} {mantissa : Mantissa} {exponent : Int} (n : Numeral) (positive : mantissa ≠ 0)
      (shortest : Shortest mantissa exponent n.value) :
      Written (.finite negative mantissa exponent) ((if negative then "-" else "") ++ String.ofList n.chars)

theorem written_render (x : BinaryFraction) : Written x x.render := by
  have signed (negative : Bool) (cs : List Char) : String.ofList ((if negative = true then ['-'] else []) ++ cs) =
      (if negative then "-" else "") ++ String.ofList cs := by
    cases negative <;> simp
  cases x with
  | notANumber => exact .notANumber
  | infinite negative =>
      cases negative with
      | false => exact .infinite
      | true => exact .negativelyInfinite
  | finite negative mantissa exponent =>
      unfold render
      dsimp only
      rw [signed]
      by_cases none : mantissa = 0
      · obtain ⟨n, chars, value⟩ := positional_eq 0 0 (.inr le_rfl)
        subst none
        rw [if_pos rfl, chars]
        exact .zero n (by simpa using value)
      · have positive : 0 < (mantissa : Nat) := Nat.pos_of_ne_zero fun zero => none (Fin.ext zero)
        obtain ⟨digits, power, found, shortest⟩ := shortestFrom_eq positive mantissa.isLt exponent 17 1 rfl (.inl rfl)
        have something : 0 < digits := by
          refine Nat.pos_of_ne_zero fun zero => not_rounds_zero positive exponent ?_
          simpa [zero] using shortest.rounds
        obtain ⟨n, chars, value⟩ := positional_eq digits power (.inl something)
        rw [if_neg none, BinaryFraction.shortest, found, chars]
        exact .finite n none (value ▸ shortest)

end RegionWiring.BinaryFraction
