import RegionWiring.Properties.Entry
import RegionWiring.Text.Pieces
import RegionWiring.Warning

namespace RegionWiring.Properties

-- An empty pending text is none.
structure Joining where
  finished : List (Nat × List Char)
  pending : List Char
  start : Nat

namespace Joining

def initial : Joining := ⟨[], [], 0⟩

def isComment (line : List Char) : Bool :=
  match line with
  | [] => true
  | c :: _ => c == '#' || c == '!'

def advance (j : Joining) (number : Nat) (raw : List Char) : Joining :=
  let line := Text.trimStart raw
  if j.pending = [] && isComment line then j
  else
    let start := if j.pending = [] then number else j.start
    if continues line then { j with pending := j.pending ++ line.dropLast, start }
    else ⟨j.finished ++ [(start, j.pending ++ line)], [], start⟩

def finish (j : Joining) : List (Nat × List Char) :=
  if j.pending = [] then j.finished else j.finished ++ [(j.start, j.pending)]

def run (j : Joining) : Nat → List (List Char) → Joining
  | _, [] => j
  | number, raw :: rest => run (j.advance number raw) (number + 1) rest

end Joining

def logicalLines (text : String) : List (Nat × List Char) :=
  (Joining.initial.run 1 (Text.lines text.toList)).finish

def readLine (source : String) (line : Nat × List Char) : Except Warning Entry :=
  (Entry.read source line.1 line.2).mapError .skippedEntry

-- Malformed entries are skipped with a warning.
def readDocument (source : String) (text : String) : Reported (List Entry) :=
  Reported.collect (readLine source) (logicalLines text)

end RegionWiring.Properties
