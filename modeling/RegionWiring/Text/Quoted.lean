import RegionWiring.Text.Unprintable
import RegionWiring.Text.Turns
import RegionWiring.Text.Decimal

namespace RegionWiring.Text

def reportedChar (c : Char) : List Char :=
  if c = '"' then ['\\', '"']
  else if c = '\\' then ['\\', '\\']
  else if c = '\n' then ['\\', 'n']
  else if c = '\r' then ['\\', 'r']
  else if c = '\t' then ['\\', 't']
  else if c.toNat = 0 then ['\\', '0']
  else if inside unprintableTurns c then '\\' :: 'u' :: '{' :: (Nat.toDigits 16 c.toNat ++ ['}'])
  else [c]

def reported (s : String) : String := String.ofList ('"' :: (s.toList.flatMap reportedChar ++ ['"']))

end RegionWiring.Text
