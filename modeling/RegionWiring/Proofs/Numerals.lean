import Mathlib
import RegionWiring.Text.Binary

namespace RegionWiring

namespace Decimal

-- No zero in it could be left out.
structure Numeral where
  whole : List Char
  places : List Char
  digits : ∀ c ∈ whole ++ places, c.isDigit = true
  written : whole ≠ [] ∧ places ≠ []
  front : whole.head? = some '0' → whole = ['0']
  back : places.getLast? = some '0' → places = ['0']

def Numeral.chars (n : Numeral) : List Char := n.whole ++ '.' :: n.places

def Numeral.value (n : Numeral) : ℚ := Decimal.value (n.whole ++ n.places) / 10 ^ n.places.length

theorem value_append_zeros (cs : List Char) (count : Nat) : value (cs ++ List.replicate count '0') = value cs * 10 ^ count := by
  rw [value, Nat.ofDigitChars_append, Nat.ofDigitChars_replicate_zero, mul_comm]
  rfl

theorem value_zeros_append (count : Nat) (cs : List Char) : value (List.replicate count '0' ++ cs) = value cs := by
  rw [value, Nat.ofDigitChars_append, Nat.ofDigitChars_replicate_zero, mul_zero]
  rfl

theorem isDigit_of_mem_zeros {count : Nat} {c : Char} (inside : c ∈ List.replicate count '0') : c.isDigit = true := by
  rw [(List.mem_replicate.1 inside).2]
  rfl

theorem lt_pow_length_digits (n : Nat) : n < 10 ^ (digits n).length :=
  (Nat.length_toDigits_le_iff (by decide) Nat.length_toDigits_pos).1 le_rfl

theorem pow_length_digits_le {n : Nat} (positive : 0 < n) : 10 ^ ((digits n).length - 1) ≤ n := by
  by_contra less
  have small : n < 10 ^ ((digits n).length - 1) := Nat.lt_of_not_le less
  rcases Nat.eq_zero_or_pos ((digits n).length - 1) with one | more
  · rw [one] at small
    omega
  · have shorter : (digits n).length ≤ (digits n).length - 1 := (Nat.length_toDigits_le_iff (by decide) more).2 small
    omega

end Decimal

namespace BinaryFraction

open Decimal (Numeral)

theorem stripped_append_zeros (cs : List Char) :
    ∃ count, cs = (cs.reverse.dropWhile (· = '0')).reverse ++ List.replicate count '0' := by
  have zeros : cs.reverse.takeWhile (· = '0') = List.replicate (cs.reverse.takeWhile (· = '0')).length '0' :=
    List.eq_replicate_of_mem fun c inside => by simpa using List.mem_takeWhile_imp inside
  refine ⟨(cs.reverse.takeWhile (· = '0')).length, ?_⟩
  have split := congrArg List.reverse (List.takeWhile_append_dropWhile (p := (· = '0')) (l := cs.reverse))
  rw [List.reverse_append, List.reverse_reverse, zeros, List.reverse_replicate] at split
  exact split.symm

theorem getLast?_stripped (cs : List Char) : (cs.reverse.dropWhile (· = '0')).reverse.getLast? ≠ some '0' := by
  rw [List.getLast?_reverse]
  intro zero
  have kept := List.head?_dropWhile_not (· = '0') cs.reverse
  rw [zero] at kept
  simp at kept

-- One zero stays where nothing else is behind the point.
theorem numeral_of_places {whole behind : List Char} (digits : ∀ c ∈ whole ++ behind, c.isDigit = true) (written : whole ≠ [])
    (front : whole.head? = some '0' → whole = ['0']) :
    let kept := behind.reverse.dropWhile (· = '0')
    ∃ n : Numeral, whole ++ '.' :: (if kept = [] then ['0'] else kept.reverse) = n.chars ∧
      n.value = Decimal.value (whole ++ behind) / 10 ^ behind.length := by
  intro kept
  obtain ⟨count, split⟩ := stripped_append_zeros behind
  have value : Decimal.value (whole ++ behind) = Decimal.value (whole ++ kept.reverse) * 10 ^ count := by
    rw [split, ← List.append_assoc, Decimal.value_append_zeros]
  have length : behind.length = kept.reverse.length + count := by
    rw [split, List.length_append, List.length_replicate]
  rw [value, length]
  by_cases nothing : kept = []
  · rw [if_pos nothing]
    have all : ∀ c ∈ whole ++ List.replicate 1 '0', c.isDigit = true := by
      intro c inside
      rcases List.mem_append.1 inside with before | zero
      · exact digits c (List.mem_append_left _ before)
      · exact Decimal.isDigit_of_mem_zeros zero
    refine ⟨⟨whole, ['0'], all, ⟨written, List.cons_ne_nil _ _⟩, front, fun _ => rfl⟩, rfl, ?_⟩
    have zero : Decimal.value (whole ++ ['0']) = Decimal.value whole * 10 ^ 1 := Decimal.value_append_zeros whole 1
    simp [Numeral.value, zero, nothing]
  · rw [if_neg nothing]
    have all : ∀ c ∈ whole ++ kept.reverse, c.isDigit = true := by
      intro c inside
      rw [split, ← List.append_assoc] at digits
      exact digits c (List.mem_append_left _ inside)
    have filled : kept.reverse ≠ [] := fun none => nothing (List.reverse_eq_nil_iff.1 none)
    refine ⟨⟨whole, kept.reverse, all, ⟨written, filled⟩, front, fun zero => absurd zero (getLast?_stripped behind)⟩, rfl, ?_⟩
    rw [Numeral.value, pow_add]
    push_cast
    rw [mul_div_mul_right _ _ (by positivity)]

theorem numeral_of_zeros {digits count : Nat} (shown : 0 < digits ∨ count = 0) :
    ∃ n : Numeral, Decimal.digits digits ++ List.replicate count '0' ++ ['.', '0'] = n.chars ∧
      n.value = digits * (10 : ℚ) ^ count := by
  have something := Decimal.digits_ne_nil digits
  have front (zero : (Decimal.digits digits ++ List.replicate count '0').head? = some '0') :
      Decimal.digits digits ++ List.replicate count '0' = ['0'] := by
    rw [List.head?_append_of_ne_nil _ something] at zero
    have none : digits = 0 := Decimal.eq_zero_of_head?_digits zero
    have alone : count = 0 := by omega
    subst none alone
    rfl
  have zeros : Decimal.digits digits ++ List.replicate count '0' ++ ['0'] =
      Decimal.digits digits ++ List.replicate (count + 1) '0' := by
    rw [List.replicate_succ', List.append_assoc]
  have all : ∀ c ∈ Decimal.digits digits ++ List.replicate count '0' ++ ['0'], c.isDigit = true := by
    rw [zeros]
    intro c inside
    exact (List.mem_append.1 inside).elim Decimal.isDigit_of_mem_digits Decimal.isDigit_of_mem_zeros
  refine ⟨⟨_, ['0'], all, ⟨by simp [something], List.cons_ne_nil _ _⟩, front, fun _ => rfl⟩, rfl, ?_⟩
  rw [Numeral.value, zeros, Decimal.value_append_zeros, Decimal.value_digits]
  push_cast
  rw [pow_succ, ← mul_assoc, List.length_singleton, pow_one, mul_div_cancel_right₀ _ (by norm_num)]

theorem head?_take_padded (digits places : Nat) :
    let padded := List.replicate (places + 1 - (Decimal.digits digits).length) '0' ++ Decimal.digits digits
    (padded.take (padded.length - places)).head? = some '0' → padded.take (padded.length - places) = ['0'] := by
  intro padded zero
  have length : padded.length = places + 1 - (Decimal.digits digits).length + (Decimal.digits digits).length := by
    rw [List.length_append, List.length_replicate]
  rw [List.head?_take, if_neg (by omega)] at zero
  rcases Nat.lt_or_ge places (Decimal.digits digits).length with bare | filled
  · have same : padded = Decimal.digits digits := by
      unfold padded
      rw [Nat.sub_eq_zero_of_le bare]
      rfl
    rw [same] at zero ⊢
    obtain rfl : digits = 0 := Decimal.eq_zero_of_head?_digits zero
    obtain rfl : places = 0 := Nat.lt_one_iff.1 bare
    rfl
  · have one : padded.length - places = 1 := by omega
    rw [one, List.take_one, zero]
    rfl

-- A power that is not negative adds zeros, a negative one moves the point.
theorem positional_eq (digits : Nat) (power : Int) (shown : 0 < digits ∨ power ≤ 0) :
    ∃ n : Numeral, positional digits power = n.chars ∧ n.value = digits * (10 : ℚ) ^ power := by
  unfold positional
  dsimp only
  split
  · rename_i upwards
    obtain ⟨count, rfl⟩ := Int.eq_ofNat_of_zero_le upwards
    rw [zpow_natCast]
    exact numeral_of_zeros (shown.imp_right fun none => Int.natCast_eq_zero.1 (le_antisymm none upwards))
  · rename_i downwards
    obtain ⟨places, rfl⟩ : ∃ places : Nat, power = -(places : Int) := ⟨(-power).toNat, by omega⟩
    rw [neg_neg, Int.toNat_natCast]
    have front := head?_take_padded digits places
    generalize padded_eq : List.replicate (places + 1 - (Decimal.digits digits).length) '0' ++ Decimal.digits digits = padded at *
    have digit : ∀ c ∈ padded, c.isDigit = true := by
      rw [← padded_eq]
      intro c inside
      exact (List.mem_append.1 inside).elim Decimal.isDigit_of_mem_zeros Decimal.isDigit_of_mem_digits
    have long : places < padded.length := by
      rw [← padded_eq, List.length_append, List.length_replicate]
      omega
    have written : padded.take (padded.length - places) ≠ [] := by
      intro none
      have empty := congrArg List.length none
      rw [List.length_take, List.length_nil] at empty
      omega
    have whole := List.take_append_drop (padded.length - places) padded
    have behind : (padded.drop (padded.length - places)).length = places := by
      rw [List.length_drop]
      omega
    obtain ⟨n, chars, value⟩ := numeral_of_places (whole ▸ digit) written front
    refine ⟨n, chars, ?_⟩
    rw [value, whole, behind, ← padded_eq, Decimal.value_zeros_append, Decimal.value_digits, zpow_neg, zpow_natCast, div_eq_mul_inv]

end BinaryFraction
end RegionWiring
