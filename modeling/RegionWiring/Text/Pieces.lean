import RegionWiring.Text.Blank

namespace RegionWiring.Text

def cut (separator : Char) : List Char → Option (List Char × List Char)
  | [] => none
  | c :: rest =>
      if c = separator then some ([], rest)
      else (cut separator rest).map fun (before, after) => (c :: before, after)

-- The last piece keeps all later separators.
def cutUpTo (separator : Char) : Nat → List Char → List (List Char)
  | 0, cs => [cs]
  | count + 1, cs =>
      match cut separator cs with
      | none => [cs]
      | some (before, after) => before :: cutUpTo separator count after

def splitList (s : String) : List String :=
  (((s.toList.splitOn ',').map trim).filter (· ≠ [])).map String.ofList

def dropReturn (line : List Char) : List Char := if line.getLast? = some '\r' then line.dropLast else line

-- Text behind the last line feed is a line unless it is empty, and keeps its carriage return.
def lines (cs : List Char) : List (List Char) :=
  let pieces := cs.splitOn '\n'
  let last := pieces.getLast?.getD []
  pieces.dropLast.map dropReturn ++ (if last = [] then [] else [last])

end RegionWiring.Text
