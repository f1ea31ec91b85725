import RegionWiring.Json.Reader

namespace RegionWiring.Location

def hexByte (b : UInt8) : Option Nat := Json.hexValue (Char.ofNat b.toNat)

-- A percent sign without two digits behind it stands for itself.
def percentDecode : List UInt8 → List UInt8
  | 37 :: a :: b :: rest =>
      match hexByte a, hexByte b with
      | some high, some low => UInt8.ofNat (16 * high + low) :: percentDecode rest
      | _, _ => 37 :: percentDecode (a :: b :: rest)
  | c :: rest => c :: percentDecode rest
  | [] => []

def bytesOf (cs : List Char) : List UInt8 := cs.flatMap String.utf8EncodeChar

end RegionWiring.Location
