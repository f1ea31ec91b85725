import RegionWiring.Location.Host
import RegionWiring.Location.Segments

namespace RegionWiring.Location

inductive Url where
  | file (host : Option Host) (path : Path)
  | other (scheme : List Char)
deriving DecidableEq

def isControlOrBlank (c : Char) : Bool := c.toNat ≤ 32

-- Controls and blanks at the ends do not count, nor tabulators and line ends anywhere.
def cleaned (cs : List Char) : List Char :=
  let inner := ((cs.dropWhile isControlOrBlank).reverse.dropWhile isControlOrBlank).reverse
  inner.filter fun c => !(c == '\t' || c == '\n' || c == '\r')

def isSchemeChar (c : Char) : Bool := c.isAlphanum || c == '+' || c == '-' || c == '.'

def cutScheme (cs : List Char) : Option (List Char × List Char) :=
  match cs, cs.dropWhile isSchemeChar with
  | first :: _, ':' :: rest => if first.isAlpha then some ((cs.takeWhile isSchemeChar).map Char.toLower, rest) else none
  | _, _ => none

def isSpecialScheme (scheme : List Char) : Bool :=
  ["http", "https", "ws", "wss", "ftp"].contains (String.ofList scheme)

def endsAuthority (special : Bool) (c : Char) : Bool := c == '/' || c == '?' || c == '#' || (special && c == '\\')

-- User information ends at the last at sign.
def cutUser (authority : List Char) : Option (List Char × List Char) :=
  if authority.contains '@' then
    let rest := (authority.reverse.takeWhile (· ≠ '@')).reverse
    some (authority.take (authority.length - rest.length - 1), rest)
  else none

-- A colon in square brackets does not end the host.
def cutHost (inBrackets : Bool) : List Char → List Char × List Char
  | [] => ([], [])
  | c :: rest =>
      if c = ':' && !inBrackets then ([], c :: rest)
      else
        let (host, port) := cutHost (if c = '[' then true else if c = ']' then false else inBrackets) rest
        (c :: host, port)

-- In an opaque URL a backslash ends the port.
def isPort : List Char → Bool
  | [] => true
  | ':' :: rest =>
      let digits := rest.takeWhile Char.isDigit
      let after := rest.dropWhile Char.isDigit
      (after = [] || after.head? = some '\\') && (ofDigits 10 digits).any (· < 65536)
  | _ => false

def isAuthority (special : Bool) (authority next : List Char) : Bool :=
  let (user, rest) :=
    match cutUser authority with
    | some (user, rest) => (user, rest)
    | none => ([], authority)
  let (host, port) := cutHost false rest
  let bareUser := authority.contains '@' && user = [] && rest = [] && next ≠ []
  if bareUser || !isPort port then false
  else if host = [] then !special && port = [] && (user = [] || user = [':'])
  else if special then (Host.read host).isSome
  else isOpaqueHost host

def readAuthority (special : Bool) (cs : List Char) : Bool :=
  isAuthority special (cs.takeWhile (!endsAuthority special ·)) (cs.dropWhile (!endsAuthority special ·))

def isSlash (c : Char) : Bool := c == '/' || c == '\\'

def afterSlash : List Char → List Char
  | c :: rest => if isSlash c then rest else c :: rest
  | [] => []

def startsWithDrive (cs : List Char) : Bool :=
  match readSegments [[]] [] cs with
  | [] :: first :: _ => isNormalDrive first
  | _ => false

-- A drive letter at the start of the path takes the place of any host.
def readHostedFile (cs : List Char) : Option Url :=
  let name := cs.takeWhile (!endsAuthority true ·)
  let rest := cs.dropWhile (!endsAuthority true ·)
  if isDrive name then some (.file none (pathOfSegments (segments cs)))
  else if name = [] then some (.file none (pathOfSegments (segments rest)))
  else
    (Host.read name).map fun host =>
      let here := host = .domain "localhost" || startsWithDrive (afterSlash rest)
      .file (if here then none else some host) (pathOfSegments (segments (afterSlash rest)))

def readFile : List Char → Option Url
  | a :: b :: rest =>
      if isSlash a && isSlash b then readHostedFile rest
      else some (.file none (pathOfSegments (segments (afterSlash (a :: b :: rest)))))
  | cs => some (.file none (pathOfSegments (segments (afterSlash cs))))

def Url.read (s : String) : Option Url := do
  let (scheme, rest) ← cutScheme (cleaned s.toList)
  if scheme = ['f', 'i', 'l', 'e'] then readFile rest
  else if isSpecialScheme scheme then
    if readAuthority true (rest.dropWhile isSlash) then some (.other scheme) else none
  else
    match rest with
    | '/' :: '/' :: authority => if readAuthority false authority then some (.other scheme) else none
    | _ => some (.other scheme)

end RegionWiring.Location
