import RegionWiring.Json.Reader

namespace RegionWiring.Location

def ofDigits (base : Nat) (cs : List Char) : Option Nat :=
  cs.foldlM (fun n c => (Json.hexValue c).bind fun d => if d < base then some (base * n + d) else none) 0

-- Hexadecimal behind `0x`, octal behind `0`, else decimal.
def readNumberPart : List Char → Option Nat
  | [] => none
  | '0' :: 'x' :: rest => ofDigits 16 rest
  | '0' :: 'X' :: rest => ofDigits 16 rest
  | '0' :: c :: rest => ofDigits 8 (c :: rest)
  | cs => ofDigits 10 cs

-- An empty last part does not count.
def addressParts (cs : List Char) : List (List Char) :=
  let parts := cs.splitOn '.'
  if parts.getLast? = some [] then parts.dropLast else parts

def endsInNumber (cs : List Char) : Bool :=
  match (addressParts cs).getLast? with
  | none => false
  | some last => (last ≠ [] && last.all Char.isDigit) || (readNumberPart last).isSome

-- The last number fills all bytes that are left.
def isIpv4 (cs : List Char) : Bool :=
  match (addressParts cs).mapM readNumberPart with
  | none => false
  | some numbers =>
      match numbers.getLast? with
      | none => false
      | some last => numbers.length ≤ 4 && numbers.dropLast.all (· < 256) && last < Nat.pow 256 (5 - numbers.length)

def isHexGroup (cs : List Char) : Bool := 1 ≤ cs.length && cs.length ≤ 4 && cs.all fun c => (Json.hexValue c).isSome

def isByte (cs : List Char) : Bool :=
  match cs with
  | [] => false
  | ['0'] => true
  | c :: _ => c ≠ '0' && cs.all Char.isDigit && (ofDigits 10 cs).any (· < 256)

def isFourBytes (cs : List Char) : Bool :=
  let parts := cs.splitOn '.'
  parts.length == 4 && parts.all isByte

-- Only the last piece may be four decimal bytes.
def groupCount : List (List Char) → Option Nat
  | [] => some 0
  | [last] => if isFourBytes last then some 2 else if isHexGroup last then some 1 else none
  | group :: rest => if isHexGroup group then (groupCount rest).map (· + 1) else none

def cutGap : List Char → Option (List Char × List Char)
  | ':' :: ':' :: rest => some ([], rest)
  | c :: rest => (cutGap rest).map fun (before, after) => (c :: before, after)
  | [] => none

def colonPieces (cs : List Char) : List (List Char) := if cs = [] then [] else cs.splitOn ':'

def isIpv6 (cs : List Char) : Bool :=
  match cutGap cs with
  | none => groupCount (colonPieces cs) == some 8
  | some (before, after) =>
      before.all (· ≠ '.') &&
        match groupCount (colonPieces before), groupCount (colonPieces after) with
        | some a, some b => a + b ≤ 7
        | _, _ => false

end RegionWiring.Location
