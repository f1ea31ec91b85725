import RegionWiring.Json.Writer
import RegionWiring.Toml.Chars
import RegionWiring.Toml.Value

namespace RegionWiring.Toml

def hexFour (n : Nat) : List Char :=
  [n / 4096, n / 256, n / 16, n].map fun d => (Json.hexDigit (d % 16)).toUpper

def escapeChar (several : Bool) (c : Char) : List Char :=
  if c = '\n' then (if several then ['\n'] else ['\\', 'n'])
  else if c = '\t' then ['\\', 't']
  else if c = '\r' then ['\\', 'r']
  else if c = '"' || c = '\\' then ['\\', c]
  else if c.toNat = 8 then ['\\', 'b']
  else if c.toNat = 12 then ['\\', 'f']
  else if c.toNat < 32 || c.toNat = 127 then '\\' :: 'u' :: hexFour c.toNat
  else [c]

def basicText (several : Bool) (cs : List Char) : List Char :=
  let body := cs.flatMap (escapeChar several)
  if several then '"' :: '"' :: '"' :: '\n' :: body ++ ['"', '"', '"'] else '"' :: body ++ ['"']

def hasTriple : List Char → Bool
  | '\'' :: '\'' :: '\'' :: _ => true
  | _ :: rest => hasTriple rest
  | [] => false

-- A literal string holds no controls and no run of quotes that would end it.
def prefersLiteral (cs : List Char) : Bool :=
  cs.contains '\\' && cs.all (fun c => c = '\n' || isTextChar c) && !hasTriple cs && cs.getLast? ≠ some '\''

def writtenText (cs : List Char) : List Char :=
  let several := cs.contains '\n'
  if !prefersLiteral cs then basicText several cs
  else if several then '\'' :: '\'' :: '\'' :: '\n' :: cs ++ ['\'', '\'', '\'']
  else if cs.contains '\'' then '\'' :: '\'' :: '\'' :: cs ++ ['\'', '\'', '\'']
  else '\'' :: cs ++ ['\'']

def writtenKey (key : String) : List Char :=
  let cs := key.toList
  if cs ≠ [] && cs.all isBareKeyChar then cs else basicText false cs

def joined (parts : List (List Char)) : List Char := List.intercalate [',', ' '] parts

def braced (fields : List (List Char)) : List Char :=
  if fields = [] then ['{', '}'] else '{' :: ' ' :: joined fields ++ [' ', '}']

-- Plain values, then arrays with tables, then tables.
structure WrittenField where
  rank : Nat
  chars : List Char

def ordered (fields : List WrittenField) : List (List Char) :=
  ([0, 1, 2].flatMap fun rank => fields.filter (·.rank == rank)).map WrittenField.chars

mutual
def writtenValue : Toml → List Char
  | .text s => writtenText s.toList
  | .integer n => Json.integerChars n
  | .float x => x.render.toList
  | .bool b => if b then ['t', 'r', 'u', 'e'] else ['f', 'a', 'l', 's', 'e']
  | .moment written => written.toList
  | .array items => '[' :: joined (writtenItems items) ++ [']']
  | .table entries => braced (ordered (writtenFields entries))
def writtenItems : List Toml → List (List Char)
  | [] => []
  | item :: rest => writtenValue item :: writtenItems rest
def writtenFields : List (String × Toml) → List WrittenField
  | [] => []
  | (key, value) :: rest =>
      let rank := if value.isTable then 2 else if value.holdsTable then 1 else 0
      ⟨rank, writtenKey key ++ ' ' :: '=' :: ' ' :: writtenValue value⟩ :: writtenFields rest
end

-- A moment of its own is written as the one field of a table.
def display : Toml → String
  | .moment written => "\x7b \"$__toml_private_datetime\" = \"" ++ written ++ "\" \x7d"
  | v => String.ofList (writtenValue v)

end RegionWiring.Toml
