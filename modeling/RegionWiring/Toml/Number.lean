import RegionWiring.Toml.Moment
import RegionWiring.Text.Binary

namespace RegionWiring.Toml

def readRun (isDigit : Char → Bool) : Scan (List Char)
  | [] => none
  | [c] => if isDigit c then some ([c], []) else none
  | c :: d :: rest =>
      if !isDigit c then none
      else if d = '_' then (readRun isDigit rest).map fun (cs, after) => (c :: cs, after)
      else if isDigit d then (readRun isDigit (d :: rest)).map fun (cs, after) => (c :: cs, after)
      else some ([c], d :: rest)

def readSign : List Char → Bool × List Char
  | '+' :: rest => (false, rest)
  | '-' :: rest => (true, rest)
  | cs => (false, cs)

def readWhole : Scan (List Char)
  | '0' :: rest => some (['0'], rest)
  | cs => readRun Char.isDigit cs

def inRange (n : Int) : Bool := -9223372036854775808 ≤ n && n ≤ 9223372036854775807

def digitsValue (base : Nat) (cs : List Char) : Nat := cs.foldl (fun n c => base * n + (Json.hexValue c).getD 0) 0

def isOctal (c : Char) : Bool := '0' ≤ c && c ≤ '7'

def isBinary (c : Char) : Bool := c == '0' || c == '1'

def isHex (c : Char) : Bool := (Json.hexValue c).isSome

def readBased (base : Nat) (isDigit : Char → Bool) : Scan Int := fun cs => do
  let (digits, rest) ← readRun isDigit cs
  let n : Int := digitsValue base digits
  if inRange n then some (n, rest) else none

def readInteger : Scan Int
  | '0' :: 'x' :: rest => readBased 16 isHex rest
  | '0' :: 'o' :: rest => readBased 8 isOctal rest
  | '0' :: 'b' :: rest => readBased 2 isBinary rest
  | cs => do
      let (negative, unsigned) := readSign cs
      let (digits, rest) ← readWhole unsigned
      let n : Int := Decimal.value digits
      let n := if negative then -n else n
      if inRange n then some (n, rest) else none

def readPlaces : Scan (Option (List Char))
  | '.' :: rest => (readRun Char.isDigit rest).map fun (digits, after) => (some digits, after)
  | cs => some (none, cs)

def readExponent : Scan (Option Int)
  | c :: rest =>
      if c = 'e' || c = 'E' then do
        let (negative, unsigned) := readSign rest
        let (digits, after) ← readRun Char.isDigit unsigned
        let n : Int := Decimal.value digits
        return (some (if negative then -n else n), after)
      else some (none, c :: rest)
  | [] => some (none, [])

def readSpecial (cs : List Char) : Option (BinaryFraction × List Char) :=
  let (negative, unsigned) := readSign cs
  match unsigned with
  | 'i' :: 'n' :: 'f' :: rest => some (.infinite negative, rest)
  | 'n' :: 'a' :: 'n' :: rest => some (.notANumber, rest)
  | _ => none

def readFinite : Scan BinaryFraction := fun cs => do
  let (negative, unsigned) := readSign cs
  let (whole, cs) ← readWhole unsigned
  let (places, cs) ← readPlaces cs
  let (exponent, cs) ← readExponent cs
  if places.isNone && exponent.isNone then none
  else
    let places := places.getD []
    let x := BinaryFraction.ofDecimal negative (Decimal.value (whole ++ places)) (exponent.getD 0 - places.length)
    if x = .infinite false then none else some (x, cs)

def readFloat : Scan BinaryFraction := fun cs => (readFinite cs).or (readSpecial cs)

end RegionWiring.Toml
