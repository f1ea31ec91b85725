import RegionWiring.Toml.Reader

namespace RegionWiring.Toml

def readHeader (s : Section) : List Char → Option (Section × List Char)
  | '[' :: rest =>
      match readKey rest with
      | some (key, ']' :: ']' :: after) => do
          let s ← s.itemHeader key
          return (s, ← endLine after)
      | _ => none
  | rest =>
      match readKey rest with
      | some (key, ']' :: after) => do
          let s ← s.header key
          return (s, ← endLine after)
      | _ => none

def readAssignment (fuel : Nat) (s : Section) (cs : List Char) : Option (Section × List Char) :=
  match readKey cs with
  | some (key, '=' :: rest) => do
      let (value, after) ← Toml.readValue fuel greatestDepth (skipGaps rest)
      let after ← endLine after
      return (← s.assign key value, after)
  | _ => none

def readLine (fuel : Nat) (s : Section) (cs : List Char) : Option (Section × List Char) :=
  match cs with
  | '[' :: rest => readHeader s rest
  | c :: _ => if c = '#' || c = '\n' || c = '\r' then (endLine cs).map (s, ·) else readAssignment fuel s cs
  | [] => none

-- Every line takes at least one character.
def readLines (values : Nat) : Nat → Section → List Char → Option Section
  | fuel, s, cs =>
      match skipGaps cs with
      | [] => some s
      | line =>
          match fuel with
          | 0 => none
          | fuel + 1 =>
              match readLine values s line with
              | none => none
              | some (s, rest) => readLines values fuel s rest

def dropMark : List Char → List Char
  | c :: rest => if c.toNat = 0xFEFF then rest else c :: rest
  | [] => []

def read (text : String) : Option Entries :=
  let cs := dropMark text.toList
  (readLines (2 * cs.length + 2) cs.length .empty cs).map Section.entries

end RegionWiring.Toml
