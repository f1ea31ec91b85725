import RegionWiring.Text.Decimal

namespace RegionWiring

-- 53 bits.
abbrev Mantissa := Fin 9007199254740992

inductive BinaryFraction where
  | finite (negative : Bool) (mantissa : Mantissa) (exponent : Int)
  | infinite (negative : Bool)
  | notANumber
deriving DecidableEq, Inhabited

namespace BinaryFraction

def leastExponent : Int := -1074

def greatestExponent : Int := 971

def leastFull : Nat := 4503599627370496

-- Numerator and denominator of `n * base ^ e`.
def scaled (n base : Nat) (e : Int) : Nat × Nat :=
  if e ≥ 0 then (n * base.pow e.toNat, 1) else (n, base.pow (-e).toNat)

-- Half a unit goes to the even neighbour.
def roundEven (numerator denominator : Nat) : Nat :=
  let q := numerator / denominator
  let twice := 2 * (numerator % denominator)
  if twice < denominator then q else if twice > denominator then q + 1 else q + q % 2

def quotientAt (numerator denominator : Nat) (exponent : Int) : Nat × Nat :=
  let (n, d) := scaled 1 2 (-exponent)
  (numerator * n, denominator * d)

def exponentFor (numerator denominator : Nat) : Int :=
  let guess := max leastExponent ((numerator.log2 : Int) - denominator.log2 - 52)
  let (n, d) := quotientAt numerator denominator guess
  if n / d ≥ 2 * leastFull then guess + 1
  else if n / d < leastFull && guess > leastExponent then guess - 1
  else guess

def nearest (negative : Bool) (numerator denominator : Nat) : BinaryFraction :=
  let exponent := exponentFor numerator denominator
  let (n, d) := quotientAt numerator denominator exponent
  let rounded := roundEven n d
  let (mantissa, exponent) : Mantissa × Int :=
    if fits : rounded < 9007199254740992 then (⟨rounded, fits⟩, exponent) else (⟨leastFull, by decide⟩, exponent + 1)
  if exponent > greatestExponent then .infinite negative else .finite negative mantissa exponent

-- Nothing is computed far outside the range.
def ofDecimal (negative : Bool) (digits : Nat) (exponent : Int) : BinaryFraction :=
  let magnitude : Int := (Decimal.digits digits).length + exponent
  if digits = 0 || magnitude < -330 then .finite negative 0 leastExponent
  else if magnitude > 310 then .infinite negative
  else
    let (n, d) := scaled digits 10 exponent
    nearest negative n d

-- Ends and candidates are compared in quarters of a unit.
structure Interval where
  low : Nat
  high : Nat
  closed : Bool

def interval (mantissa : Nat) (exponent : Int) : Interval :=
  let narrow := mantissa = leastFull && exponent > leastExponent
  ⟨4 * mantissa - (if narrow then 1 else 2), 4 * mantissa + 2, mantissa % 2 == 0⟩

def inInterval (i : Interval) (exponent : Int) (digits : Nat) (power : Int) : Bool :=
  let (a, b) := scaled (4 * digits) 10 power
  let (c, d) := scaled 1 2 exponent
  let candidate := a * d
  let low := i.low * c * b
  let high := i.high * c * b
  if i.closed then low ≤ candidate && candidate ≤ high else low < candidate && candidate < high

-- The nearer one comes first.
def neighbours (mantissa : Nat) (exponent power : Int) : List Nat :=
  let (a, b) := scaled mantissa 2 exponent
  let (c, d) := scaled 1 10 power
  let n := a * d
  let m := b * c
  let below := n / m
  if 2 * (n % m) ≤ m then [below, below + 1] else [below + 1, below]

-- The power of ten just above the number.
def decimalMagnitude (mantissa : Nat) (exponent : Int) : Int :=
  let (a, b) := scaled mantissa 2 exponent
  let guess : Int := (Decimal.digits a).length - (Decimal.digits b).length
  let (c, d) := scaled 1 10 guess
  if a * d ≥ b * c then guess + 1 else guess

def shortestFrom (fuel count : Nat) (mantissa : Nat) (exponent magnitude : Int) : Nat × Int :=
  let power := magnitude - count
  match (neighbours mantissa exponent power).find? (inInterval (interval mantissa exponent) exponent · power), fuel with
  | some digits, _ => (digits, power)
  | none, 0 => (mantissa, exponent)
  | none, fuel + 1 => shortestFrom fuel (count + 1) mantissa exponent magnitude

-- The fewest digits that read back.
def shortest (mantissa : Nat) (exponent : Int) : Nat × Int :=
  shortestFrom 17 1 mantissa exponent (decimalMagnitude mantissa exponent)

-- A whole number has one zero behind the point.
def positional (digits : Nat) (power : Int) : List Char :=
  let cs := Decimal.digits digits
  if power ≥ 0 then cs ++ List.replicate power.toNat '0' ++ ['.', '0']
  else
    let places := (-power).toNat
    let padded := List.replicate (places + 1 - cs.length) '0' ++ cs
    let fraction := (padded.drop (padded.length - places)).reverse.dropWhile (· = '0')
    padded.take (padded.length - places) ++ '.' :: (if fraction = [] then ['0'] else fraction.reverse)

def render : BinaryFraction → String
  | .notANumber => "nan"
  | .infinite negative => if negative then "-inf" else "inf"
  | .finite negative mantissa exponent =>
      let (digits, power) := if mantissa = 0 then (0, 0) else shortest mantissa exponent
      String.ofList ((if negative then ['-'] else []) ++ positional digits power)

end BinaryFraction
end RegionWiring
