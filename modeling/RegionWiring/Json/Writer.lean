import RegionWiring.Json.Value
import RegionWiring.Text.Decimal

namespace RegionWiring.Json

def hexDigit (n : Nat) : Char := if n < 10 then Char.ofNat (48 + n) else Char.ofNat (87 + n)

def escape (c : Char) : List Char :=
  if c = '"' then ['\\', '"']
  else if c = '\\' then ['\\', '\\']
  else if c = '\n' then ['\\', 'n']
  else if c = '\r' then ['\\', 'r']
  else if c = '\t' then ['\\', 't']
  else if c = Char.ofNat 8 then ['\\', 'b']
  else if c = Char.ofNat 12 then ['\\', 'f']
  else if c.toNat < 32 then ['\\', 'u', '0', '0', hexDigit (c.toNat / 16), hexDigit (c.toNat % 16)]
  else [c]

def quoted (s : String) : List Char := '"' :: (s.toList.flatMap escape ++ ['"'])

def integerChars : Int → List Char
  | .ofNat n => Decimal.digits n
  | .negSucc n => '-' :: Decimal.digits (n + 1)

mutual
def compactChars : Json → List Char
  | .null => ['n', 'u', 'l', 'l']
  | .bool true => ['t', 'r', 'u', 'e']
  | .bool false => ['f', 'a', 'l', 's', 'e']
  | .integer n => integerChars n
  | .text s => quoted s
  | .list items => '[' :: (itemChars items ++ [']'])
  | .record fields => '{' :: (fieldChars fields ++ ['}'])
  | .foreign => ['n', 'u', 'l', 'l']
def itemChars : List Json → List Char
  | [] => []
  | [item] => compactChars item
  | item :: next :: rest => compactChars item ++ ',' :: itemChars (next :: rest)
def fieldChars : List (String × Json) → List Char
  | [] => []
  | [(name, value)] => quoted name ++ ':' :: compactChars value
  | (name, value) :: next :: rest => quoted name ++ ':' :: (compactChars value ++ ',' :: fieldChars (next :: rest))
end

def newline (depth : Nat) : List Char := '\n' :: List.replicate (2 * depth) ' '

mutual
-- `depth` is the indentation of the line that the value starts on.
def indentedChars (depth : Nat) : Json → List Char
  | .list [] => ['[', ']']
  | .list (item :: rest) => '[' :: (indentedItems (depth + 1) (item :: rest) ++ newline depth ++ [']'])
  | .record [] => ['{', '}']
  | .record (field :: rest) => '{' :: (indentedFields (depth + 1) (field :: rest) ++ newline depth ++ ['}'])
  | .null => ['n', 'u', 'l', 'l']
  | .bool true => ['t', 'r', 'u', 'e']
  | .bool false => ['f', 'a', 'l', 's', 'e']
  | .integer n => integerChars n
  | .text s => quoted s
  | .foreign => ['n', 'u', 'l', 'l']
def indentedItems (depth : Nat) : List Json → List Char
  | [] => []
  | [item] => newline depth ++ indentedChars depth item
  | item :: next :: rest => newline depth ++ indentedChars depth item ++ ',' :: indentedItems depth (next :: rest)
def indentedFields (depth : Nat) : List (String × Json) → List Char
  | [] => []
  | [(name, value)] => newline depth ++ quoted name ++ ':' :: ' ' :: indentedChars depth value
  | (name, value) :: next :: rest =>
      newline depth ++ quoted name ++ ':' :: ' ' :: (indentedChars depth value ++ ',' :: indentedFields depth (next :: rest))
end

def compact (j : Json) : String := String.ofList (compactChars j)

def indented (j : Json) : String := String.ofList (indentedChars 0 j)

end RegionWiring.Json
