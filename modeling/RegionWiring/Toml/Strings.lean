import RegionWiring.Toml.Chars

namespace RegionWiring.Toml

def shortEscape (c : Char) : Option Char :=
  if c = '"' || c = '\\' then some c
  else if c = 'b' then some (Char.ofNat 8)
  else if c = 't' then some '\t'
  else if c = 'n' then some '\n'
  else if c = 'f' then some (Char.ofNat 12)
  else if c = 'r' then some '\r'
  else none

def hexNumber (cs : List Char) : Option Nat := cs.foldlM (fun n c => (Json.hexValue c).map (16 * n + ·)) 0

def codedChar (cs : List Char) : Option Char := do
  let n ← hexNumber cs
  if n < 0xD800 || (0xE000 ≤ n && n < 0x110000) then some (Char.ofNat n) else none

def consChar (c : Option Char) (read : Option (List Char × List Char)) : Option (List Char × List Char) :=
  match c, read with
  | some c, some (cs, rest) => some (c :: cs, rest)
  | _, _ => none

def readBasic : List Char → Option (List Char × List Char)
  | [] => none
  | '"' :: rest => some ([], rest)
  | '\\' :: 'u' :: a :: b :: c :: d :: rest => consChar (codedChar [a, b, c, d]) (readBasic rest)
  | '\\' :: 'U' :: a :: b :: c :: d :: e :: f :: g :: h :: rest =>
      consChar (codedChar [a, b, c, d, e, f, g, h]) (readBasic rest)
  | '\\' :: e :: rest => consChar (shortEscape e) (readBasic rest)
  | c :: rest => if c = '\\' then none else consChar (if isTextChar c then some c else none) (readBasic rest)

def readLiteral : List Char → Option (List Char × List Char)
  | [] => none
  | '\'' :: rest => some ([], rest)
  | c :: rest => consChar (if isTextChar c then some c else none) (readLiteral rest)

-- Up to two more quotes belong to the content.
def closeTriple (quote : Char) (rest : List Char) : Option (List Char × List Char) :=
  let extra := rest.takeWhile (· = quote)
  if extra.length ≤ 2 then some (extra, rest.drop extra.length) else none

def endsLine (cs : List Char) : Bool := (newline? (skipGaps cs)).isSome

-- While `skipping`, gaps and line ends are dropped.
def readMultiBasic (skipping : Bool) : List Char → Option (List Char × List Char)
  | [] => none
  | '"' :: '"' :: '"' :: rest => closeTriple '"' rest
  | '\\' :: 'u' :: a :: b :: c :: d :: rest => consChar (codedChar [a, b, c, d]) (readMultiBasic false rest)
  | '\\' :: 'U' :: a :: b :: c :: d :: e :: f :: g :: h :: rest =>
      consChar (codedChar [a, b, c, d, e, f, g, h]) (readMultiBasic false rest)
  | '\r' :: '\n' :: rest => if skipping then readMultiBasic true rest else consChar (some '\n') (readMultiBasic false rest)
  | '\\' :: e :: rest =>
      if endsLine (e :: rest) then readMultiBasic true (e :: rest)
      else consChar (shortEscape e) (readMultiBasic false rest)
  | c :: rest =>
      if c = '\\' then none
      else if skipping && (isGap c || c = '\n') then readMultiBasic true rest
      else consChar (if isTextChar c || c = '\n' then some c else none) (readMultiBasic false rest)

def readMultiLiteral : List Char → Option (List Char × List Char)
  | [] => none
  | '\'' :: '\'' :: '\'' :: rest => closeTriple '\'' rest
  | '\r' :: '\n' :: rest => consChar (some '\n') (readMultiLiteral rest)
  | c :: rest => consChar (if isTextChar c || c = '\n' then some c else none) (readMultiLiteral rest)

def dropFirstNewline (cs : List Char) : List Char := (newline? cs).getD cs

def readString : List Char → Option (List Char × List Char)
  | '"' :: '"' :: '"' :: rest => readMultiBasic false (dropFirstNewline rest)
  | '"' :: rest => readBasic rest
  | '\'' :: '\'' :: '\'' :: rest => readMultiLiteral (dropFirstNewline rest)
  | '\'' :: rest => readLiteral rest
  | _ => none

def readSimpleKey : List Char → Option (String × List Char)
  | '"' :: rest => (readBasic rest).map fun (cs, after) => (String.ofList cs, after)
  | '\'' :: rest => (readLiteral rest).map fun (cs, after) => (String.ofList cs, after)
  | cs =>
      let bare := cs.takeWhile isBareKeyChar
      if bare = [] then none else some (String.ofList bare, cs.dropWhile isBareKeyChar)

-- There are fewer than eighty parts.
def readKeyParts : Nat → List Char → Option (List String × List Char)
  | 0, _ => none
  | fuel + 1, cs =>
      match readSimpleKey (skipGaps cs) with
      | none => none
      | some (part, rest) =>
          match skipGaps rest with
          | '.' :: next => (readKeyParts fuel next).map fun (parts, after) => (part :: parts, after)
          | after => some ([part], after)

def mostParts : Nat := 79

def readKey (cs : List Char) : Option (List String × List Char) := readKeyParts mostParts cs

end RegionWiring.Toml
