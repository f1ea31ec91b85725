import RegionWiring.Json.Reader

namespace RegionWiring.Toml

def isGap (c : Char) : Bool := c == ' ' || c == '\t'

def skipGaps (cs : List Char) : List Char := cs.dropWhile isGap

def isTextChar (c : Char) : Bool := c == '\t' || (c.toNat ≥ 32 && c.toNat ≠ 127)

def isBareKeyChar (c : Char) : Bool := c.isAlphanum || c == '_' || c == '-'

-- A carriage return ends a line only before a line feed.
def newline? : List Char → Option (List Char)
  | '\n' :: rest => some rest
  | '\r' :: '\n' :: rest => some rest
  | _ => none

def endLine (cs : List Char) : Option (List Char) :=
  let rest :=
    match skipGaps cs with
    | '#' :: comment => comment.dropWhile isTextChar
    | other => other
  if rest = [] then some [] else newline? rest

def skipLoose (inComment : Bool) : List Char → List Char
  | [] => []
  | '\r' :: '\n' :: rest => skipLoose false rest
  | c :: rest =>
      if c = '\n' then skipLoose false rest
      else if inComment then (if isTextChar c then skipLoose true rest else c :: rest)
      else if isGap c then skipLoose false rest
      else if c = '#' then skipLoose true rest
      else c :: rest

end RegionWiring.Toml
