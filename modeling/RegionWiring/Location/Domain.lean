import RegionWiring.Location.DomainClasses
import RegionWiring.Text.Lowercase
import RegionWiring.Text.Pieces

namespace RegionWiring.Location

def isDeniedAscii (c : Char) : Bool :=
  c.toNat ≤ 32 || c.toNat = 127 || "%#/:<>?@[\\]^|".contains c

def isForbidden (c : Char) : Bool := if c.toNat < 128 then isDeniedAscii c else Text.inside forbiddenTurns c

def narrow (c : Char) : Char :=
  let n := c.toNat
  if 0xFF01 ≤ n && n ≤ 0xFF5E then Char.ofNat (n - 0xFEE0)
  else if n = 0x3002 || n = 0xFF61 then '.'
  else c

def foldName (cs : List Char) : List Char :=
  ((cs.map narrow).filter fun c => !(c.toNat ≥ 128 && Text.inside droppedTurns c)).map Text.lowerChar

def digit36 (c : Char) : Option Nat :=
  let n := c.toNat
  if 97 ≤ n && n ≤ 122 then some (n - 97)
  else if 48 ≤ n && n ≤ 57 then some (n - 22)
  else none

def threshold (bias position : Nat) : Nat :=
  if position ≤ bias then 1 else if position ≥ bias + 26 then 26 else position - bias

-- `position` grows by 36 a digit.
def readDelta (bias : Nat) (position weight value : Nat) : List Char → Option (Nat × List Char)
  | [] => none
  | c :: rest =>
      match digit36 c with
      | none => none
      | some d =>
          let t := threshold bias position
          let value := value + d * weight
          if d < t then some (value, rest) else readDelta bias (position + 36) (weight * (36 - t)) value rest

def scaleDown (fuel delta position : Nat) : Nat × Nat :=
  match fuel with
  | 0 => (delta, position)
  | fuel + 1 => if delta > 455 then scaleDown fuel (delta / 35) (position + 36) else (delta, position)

def adaptBias (delta count : Nat) (first : Bool) : Nat :=
  let delta := if first then delta / 700 else delta / 2
  let (scaled, position) := scaleDown 64 (delta + delta / count) 0
  position + 36 * scaled / (scaled + 38)

-- `fuel` bounds the number of inserted characters.
def insertSpelled (fuel code place bias : Nat) (done : List Char) (first : Bool) (cs : List Char) : Option (List Char) :=
  match fuel with
  | 0 => none
  | fuel + 1 =>
      if cs = [] then some done
      else
        match readDelta bias 36 1 0 cs with
        | none => none
        | some (delta, rest) =>
            let count := done.length + 1
            let code := code + (place + delta) / count
            let place := (place + delta) % count
            if code > 0x10FFFF || (0xD800 ≤ code && code < 0xE000) then none
            else
              insertSpelled fuel code (place + 1) (adaptBias delta count first)
                (done.take place ++ Char.ofNat code :: done.drop place) false rest

def unspell (cs : List Char) : Option (List Char) :=
  let tail := (cs.reverse.takeWhile (· ≠ '-')).reverse
  let plain := (cs.take (cs.length - tail.length)).dropLast
  insertSpelled (tail.length + 1) 128 0 72 plain true tail

def isLabel (label : List Char) : Bool :=
  match label with
  | 'x' :: 'n' :: '-' :: '-' :: rest =>
      match unspell rest with
      | some cs => cs.any (·.toNat ≥ 128) && cs.all (!isForbidden ·) && foldName cs == cs
      | none => false
  | _ => label.all (!isForbidden ·)

def domainName (cs : List Char) : Option (List Char) :=
  let folded := foldName cs
  if (folded.splitOn '.').all isLabel then some folded else none

end RegionWiring.Location
