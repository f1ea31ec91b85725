import RegionWiring.Json.Value
import RegionWiring.Text.Decimal

namespace RegionWiring.Json

def isGap (c : Char) : Bool := c == ' ' || c == '\n' || c == '\t' || c == '\r'

def skipGaps (cs : List Char) : List Char := cs.dropWhile isGap

inductive TextUnit where
  | char (c : Char)
  | code (n : Nat)

def hexValue (c : Char) : Option Nat :=
  let n := c.toNat
  if 48 ≤ n && n ≤ 57 then some (n - 48)
  else if 97 ≤ n && n ≤ 102 then some (n - 87)
  else if 65 ≤ n && n ≤ 70 then some (n - 55)
  else none

def hexQuad (a b c d : Char) : Option Nat := do
  return (((← hexValue a) * 16 + (← hexValue b)) * 16 + (← hexValue c)) * 16 + (← hexValue d)

def shortEscape (c : Char) : Option Char :=
  if c = '"' || c = '\\' || c = '/' then some c
  else if c = 'b' then some (Char.ofNat 8)
  else if c = 'f' then some (Char.ofNat 12)
  else if c = 'n' then some '\n'
  else if c = 'r' then some '\r'
  else if c = 't' then some '\t'
  else none

-- Control characters must be escaped.
def readUnits : List Char → Option (List TextUnit × List Char)
  | [] => none
  | '"' :: rest => some ([], rest)
  | '\\' :: 'u' :: a :: b :: c :: d :: rest =>
      match hexQuad a b c d, readUnits rest with
      | some n, some (units, after) => some (.code n :: units, after)
      | _, _ => none
  | '\\' :: e :: rest =>
      match shortEscape e, readUnits rest with
      | some c, some (units, after) => some (.char c :: units, after)
      | _, _ => none
  | c :: rest =>
      if c = '\\' || c.toNat < 32 then none
      else (readUnits rest).map fun (units, after) => (.char c :: units, after)

-- A high surrogate needs a low one right behind it, and a low one a high one in front.
def pairUnits : List TextUnit → Option (List Char)
  | [] => some []
  | .char c :: rest => (pairUnits rest).map (c :: ·)
  | .code n :: rest =>
      if 0xD800 ≤ n && n < 0xDC00 then
        match rest with
        | .code m :: after =>
            if 0xDC00 ≤ m && m < 0xE000 then
              (pairUnits after).map (Char.ofNat (0x10000 + (n - 0xD800) * 1024 + (m - 0xDC00)) :: ·)
            else none
        | _ => none
      else if 0xDC00 ≤ n && n < 0xE000 then none
      else (pairUnits rest).map (Char.ofNat n :: ·)

def readText (cs : List Char) : Option (Option String × List Char) :=
  (readUnits cs).map fun (units, after) => ((pairUnits units).map String.ofList, after)

def skipFraction : List Char → Option (Bool × List Char)
  | '.' :: rest =>
      let after := rest.dropWhile Char.isDigit
      if after.length < rest.length then some (true, after) else none
  | cs => some (false, cs)

def skipExponent : List Char → Option (Bool × List Char)
  | cs@(e :: rest) =>
      if e = 'e' || e = 'E' then
        let unsigned := match rest with | '+' :: r => r | '-' :: r => r | r => r
        let after := unsigned.dropWhile Char.isDigit
        if after.length < unsigned.length then some (true, after) else none
      else some (false, cs)
  | [] => some (false, [])

def integerOf (negative : Bool) (n : Nat) : Json :=
  if negative then (if n = 0 then .foreign else .integer (-n)) else .integer n

def readNumber (cs : List Char) : Option (Json × List Char) := do
  let (negative, unsigned) := match cs with | '-' :: rest => (true, rest) | _ => (false, cs)
  let whole := unsigned.takeWhile Char.isDigit
  if whole = [] || (whole.head? = some '0' && whole.length ≠ 1) then none
  else
    let (fraction, afterFraction) ← skipFraction (unsigned.dropWhile Char.isDigit)
    let (exponent, after) ← skipExponent afterFraction
    return (if fraction || exponent then .foreign else integerOf negative (Decimal.value whole), after)

def recordOf (fields : List (Option String × Json)) : Json :=
  match fields.mapM fun field => field.1.map (·, field.2) with
  | some named => .record named
  | none => .foreign

mutual
def readValue : Nat → List Char → Option (Json × List Char)
  | 0, _ => none
  | fuel + 1, cs =>
      match skipGaps cs with
      | 'n' :: 'u' :: 'l' :: 'l' :: rest => some (.null, rest)
      | 't' :: 'r' :: 'u' :: 'e' :: rest => some (.bool true, rest)
      | 'f' :: 'a' :: 'l' :: 's' :: 'e' :: rest => some (.bool false, rest)
      | '"' :: rest => (readText rest).map fun (s, after) => ((s.map Json.text).getD .foreign, after)
      | '[' :: rest =>
          match skipGaps rest with
          | ']' :: after => some (.list [], after)
          | inner => (readItems fuel inner).map fun (items, after) => (.list items, after)
      | '{' :: rest =>
          match skipGaps rest with
          | '}' :: after => some (.record [], after)
          | inner => (readFields fuel inner).map fun (fields, after) => (recordOf fields, after)
      | other => readNumber other
def readItems : Nat → List Char → Option (List Json × List Char)
  | 0, _ => none
  | fuel + 1, cs =>
      match readValue fuel cs with
      | none => none
      | some (item, rest) =>
          match skipGaps rest with
          | ',' :: next => (readItems fuel next).map fun (items, after) => (item :: items, after)
          | ']' :: after => some ([item], after)
          | _ => none
def readFields : Nat → List Char → Option (List (Option String × Json) × List Char)
  | 0, _ => none
  | fuel + 1, cs =>
      match skipGaps cs with
      | '"' :: opened =>
          match readText opened with
          | none => none
          | some (name, afterName) =>
              match skipGaps afterName with
              | ':' :: afterColon =>
                  match readValue fuel afterColon with
                  | none => none
                  | some (value, rest) =>
                      match skipGaps rest with
                      | ',' :: next => (readFields fuel next).map fun (fields, after) => ((name, value) :: fields, after)
                      | '}' :: after => some ([(name, value)], after)
                      | _ => none
              | _ => none
      | _ => none
end

def read (s : String) : Option Json :=
  match readValue (2 * s.toList.length + 2) s.toList with
  | some (value, rest) => if skipGaps rest = [] then some value else none
  | none => none

end RegionWiring.Json
