namespace RegionWiring.Text

-- Inside if the number of turns up to it is odd.
def inside (turns : List Nat) (c : Char) : Bool := (turns.takeWhile (· ≤ c.toNat)).length % 2 == 1

end RegionWiring.Text
