import RegionWiring.Toml.Number
import RegionWiring.Toml.Section
import RegionWiring.Toml.Strings

namespace RegionWiring.Toml

def readWord (cs : List Char) : Option (Toml × List Char) :=
  match cs with
  | 't' :: 'r' :: 'u' :: 'e' :: rest => some (.bool true, rest)
  | 'f' :: 'a' :: 'l' :: 's' :: 'e' :: rest => some (.bool false, rest)
  | _ => (readSpecial cs).map fun (x, rest) => (.float x, rest)

def readScalar (cs : List Char) : Option (Toml × List Char) :=
  match readMoment cs with
  | some (written, rest) => some (.moment written, rest)
  | none =>
      match readFloat cs with
      | some (x, rest) => some (.float x, rest)
      | none => (readInteger cs).map fun (n, rest) => (.integer n, rest)

def greatestDepth : Nat := 79

mutual
-- `depth` is how many more arrays and inline tables may be opened.
def readValue : Nat → Nat → List Char → Option (Toml × List Char)
  | 0, _, _ => none
  | fuel + 1, depth, cs =>
      match cs with
      | [] => none
      | '[' :: rest => if depth = 0 then none else readArray fuel (depth - 1) rest
      | '{' :: rest =>
          if depth = 0 then none
          else
            match skipGaps rest with
            | '}' :: after => some (.table [], after)
            | inner => readFields fuel (depth - 1) .empty inner
      | c :: _ =>
          if c = '"' || c = '\'' then (readString cs).map fun (s, rest) => (.text (String.ofList s), rest)
          else if c = '+' || c = '-' || c.isDigit then readScalar cs
          else readWord cs
-- A comma may follow the last item.
def readArray : Nat → Nat → List Char → Option (Toml × List Char)
  | 0, _, _ => none
  | fuel + 1, depth, cs =>
      match skipLoose false cs with
      | ']' :: rest => some (.array [], rest)
      | other =>
          match readValue fuel depth other with
          | none => none
          | some (item, rest) =>
              match skipLoose false rest with
              | ']' :: after => some (.array [item], after)
              | ',' :: next =>
                  match readArray fuel depth next with
                  | some (.array items, after) => some (.array (item :: items), after)
                  | _ => none
              | _ => none
-- No comma may follow the last field.
def readFields : Nat → Nat → Section → List Char → Option (Toml × List Char)
  | 0, _, _, _ => none
  | fuel + 1, depth, fields, cs =>
      match readKey cs with
      | some (key, '=' :: rest) =>
          match readValue fuel depth (skipGaps rest) with
          | none => none
          | some (value, rest) =>
              match fields.assign key value with
              | none => none
              | some fields =>
                  match skipGaps rest with
                  | '}' :: after => some (fields.value, after)
                  | ',' :: next => readFields fuel depth fields next
                  | _ => none
      | _ => none
end

end RegionWiring.Toml
