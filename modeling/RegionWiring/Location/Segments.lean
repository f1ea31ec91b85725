import RegionWiring.Location.Percent
import RegionWiring.Files.Path

namespace RegionWiring.Location

def dots : List Char → Option Nat
  | [] => some 0
  | '.' :: rest => (dots rest).map (· + 1)
  | '%' :: '2' :: 'e' :: rest => (dots rest).map (· + 1)
  | '%' :: '2' :: 'E' :: rest => (dots rest).map (· + 1)
  | _ => none

def isUp (segment : List Char) : Bool := dots segment == some 2

def isHere (segment : List Char) : Bool := dots segment == some 1

def isDrive : List Char → Bool
  | [c, mark] => c.isAlpha && (mark == ':' || mark == '|')
  | _ => false

def isNormalDrive : List Char → Bool
  | [c, ':'] => c.isAlpha
  | _ => false

-- The empty first segment and a drive letter stay.
def stepUp (closed : List (List Char)) : List (List Char) :=
  match closed.getLast? with
  | some last => if closed.length ≥ 2 && !isDrive last then closed.dropLast else closed
  | none => closed

def normalDrive (closed : List (List Char)) (segment : List Char) : List Char :=
  match segment with
  | [c, '|'] => if closed = [[]] && c.isAlpha then [c, ':'] else segment
  | _ => segment

def close (closed : List (List Char)) (segment : List Char) : List (List Char) :=
  if isUp segment then stepUp closed
  else if isHere segment then closed
  else closed ++ [normalDrive closed segment]

def finish (closed : List (List Char)) (segment : List Char) : List (List Char) :=
  if isUp segment || isHere segment then close closed segment ++ [[]] else close closed segment

def readSegments (closed : List (List Char)) (segment : List Char) : List Char → List (List Char)
  | [] => finish closed segment
  | c :: rest =>
      if c = '?' || c = '#' then finish closed segment
      else if c = '/' || c = '\\' then readSegments (close closed segment) [] rest
      else if closed = [[]] && isNormalDrive segment then readSegments (closed ++ [segment]) [c] rest
      else readSegments closed (segment ++ [c]) rest

-- Empty segments at the front do not count.
def segments (cs : List Char) : List (List Char) :=
  match (readSegments [[]] [] cs).dropWhile (· = []) with
  | [] => [[]]
  | kept => kept

def endsInDrive (bytes : List UInt8) : Bool :=
  match bytes.reverse with
  | mark :: letter :: _ :: _ => (mark == 58 || mark == 124) && (Char.ofNat letter.toNat).isAlpha && letter < 128
  | _ => false

def pathOfSegments (parts : List (List Char)) : Path :=
  let bytes := parts.flatMap fun segment => FileName.slash :: percentDecode (bytesOf segment)
  ⟨if endsInDrive bytes then bytes ++ [FileName.slash] else bytes⟩

end RegionWiring.Location
