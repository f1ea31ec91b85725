import RegionWiring.Toml.Chars
import RegionWiring.Text.Decimal

namespace RegionWiring.Toml

abbrev Scan (α : Type) := List Char → Option (α × List Char)

def fixedDigits (count : Nat) : Scan Nat := fun cs =>
  let digits := cs.take count
  if digits.length = count && digits.all Char.isDigit then some (Decimal.value digits, cs.drop count) else none

def expect (c : Char) : Scan Unit
  | first :: rest => if first = c then some ((), rest) else none
  | [] => none

def padded (width n : Nat) : List Char :=
  let cs := Decimal.digits n
  List.replicate (width - cs.length) '0' ++ cs

def isLeapYear (year : Nat) : Bool := (year % 4 == 0 && year % 100 != 0) || year % 400 == 0

def daysIn (year month : Nat) : Nat :=
  if month = 2 then (if isLeapYear year then 29 else 28)
  else if month = 4 || month = 6 || month = 9 || month = 11 then 30
  else 31

def readDate : Scan (List Char) := fun cs => do
  let (year, cs) ← fixedDigits 4 cs
  let ((), cs) ← expect '-' cs
  let (month, cs) ← fixedDigits 2 cs
  let ((), cs) ← expect '-' cs
  let (day, cs) ← fixedDigits 2 cs
  if 1 ≤ month && month ≤ 12 && 1 ≤ day && day ≤ daysIn year month then
    some (padded 4 year ++ '-' :: padded 2 month ++ '-' :: padded 2 day, cs)
  else none

def readHour : Scan Nat := fun cs => (fixedDigits 2 cs).filter (·.1 ≤ 23)

def readMinute : Scan Nat := fun cs => (fixedDigits 2 cs).filter (·.1 ≤ 59)

def writtenFraction (digits : List Char) : List Char :=
  let kept := ((digits.take 9).reverse.dropWhile (· = '0')).reverse
  if kept = [] then [] else '.' :: kept

def readFraction : Scan (List Char)
  | '.' :: rest =>
      let digits := rest.takeWhile Char.isDigit
      if digits = [] then none else some (writtenFraction digits, rest.dropWhile Char.isDigit)
  | cs => some ([], cs)

def readTime : Scan (List Char) := fun cs => do
  let (hour, cs) ← readHour cs
  let ((), cs) ← expect ':' cs
  let (minute, cs) ← readMinute cs
  let ((), cs) ← expect ':' cs
  let (second, cs) ← (fixedDigits 2 cs).filter (·.1 ≤ 60)
  let (fraction, cs) ← readFraction cs
  return (padded 2 hour ++ ':' :: padded 2 minute ++ ':' :: padded 2 second ++ fraction, cs)

-- A missing offset is one too; minus zero loses its sign.
def readOffset : Scan (List Char)
  | 'Z' :: rest => some (['Z'], rest)
  | 'z' :: rest => some (['Z'], rest)
  | sign :: rest =>
      if sign = '+' || sign = '-' then do
        let (hour, cs) ← readHour rest
        let ((), cs) ← expect ':' cs
        let (minute, cs) ← readMinute cs
        let shown := if hour = 0 && minute = 0 then '+' else sign
        return (shown :: padded 2 hour ++ ':' :: padded 2 minute, cs)
      else some ([], sign :: rest)
  | [] => some ([], [])

def readDelimitedTime : Scan (List Char)
  | c :: rest =>
      if c = 'T' || c = 't' || c = ' ' then do
        let (time, cs) ← readTime rest
        let (offset, cs) ← readOffset cs
        return ('T' :: time ++ offset, cs)
      else none
  | [] => none

def readMoment : Scan String := fun cs =>
  match readDate cs with
  | some (date, rest) =>
      match readDelimitedTime rest with
      | some (time, after) => some (String.ofList (date ++ time), after)
      | none => some (String.ofList date, rest)
  | none => (readTime cs).map fun (time, after) => (String.ofList time, after)

end RegionWiring.Toml
