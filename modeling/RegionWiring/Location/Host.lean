import RegionWiring.Location.Address
import RegionWiring.Location.Domain
import RegionWiring.Location.Percent

namespace RegionWiring.Location

inductive Host where
  | domain (name : String)
  | address
deriving DecidableEq

def bracketed? : List Char → Option (Option (List Char))
  | '[' :: rest => some (if rest.getLast? = some ']' then some rest.dropLast else none)
  | _ => none

def Host.read (cs : List Char) : Option Host :=
  match bracketed? cs with
  | some inner => if inner.any isIpv6 then some .address else none
  | none => do
      let decoded ← String.fromUTF8? (percentDecode (bytesOf cs)).toByteArray
      let name ← domainName decoded.toList
      if name = [] then none
      else if endsInNumber name then (if isIpv4 name then some .address else none)
      else some (.domain (String.ofList name))

def isOpaqueHost (cs : List Char) : Bool :=
  match bracketed? cs with
  | some inner => inner.any isIpv6
  | none => cs.all fun c => !(c.toNat = 0 || "\t\n\r #/:<>?@[\\]^|".contains c)

end RegionWiring.Location
