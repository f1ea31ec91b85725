namespace RegionWiring.Properties

def cutUnescaped (separator : Char) : List Char → Option (List Char × List Char)
  | [] => none
  | ['\\'] => none
  | '\\' :: c :: rest => (cutUnescaped separator rest).map fun (before, after) => ('\\' :: c :: before, after)
  | c :: rest =>
      if c = separator then some ([], rest)
      else (cutUnescaped separator rest).map fun (before, after) => (c :: before, after)

theorem cutUnescaped_length (separator : Char) (cs before after : List Char)
    (found : cutUnescaped separator cs = some (before, after)) : before.length + after.length + 1 = cs.length := by
  fun_induction cutUnescaped separator cs generalizing before after with
  | case1 => cases found
  | case2 => cases found
  | case3 c rest ih =>
      obtain ⟨⟨b, a⟩, inner, same⟩ := Option.map_eq_some_iff.1 found
      cases same
      have := ih _ _ inner
      simp only [List.length_cons]; omega
  | case4 => cases found; simp
  | case5 =>
      rename_i ih
      obtain ⟨⟨b, a⟩, inner, same⟩ := Option.map_eq_some_iff.1 found
      cases same
      have := ih _ _ inner
      simp only [List.length_cons]; omega

def splitUnescaped (separator : Char) (cs : List Char) : List (List Char) :=
  match found : cutUnescaped separator cs with
  | none => [cs]
  | some (before, after) =>
      have := cutUnescaped_length separator cs before after found
      before :: splitUnescaped separator after
termination_by cs.length

def escapedChar (c : Char) : Char :=
  if c = 't' then '\t' else if c = 'n' then '\n' else if c = 'r' then '\r' else c

-- A backslash at the very end stands for nothing.
def unescape : List Char → List Char
  | [] => []
  | ['\\'] => []
  | '\\' :: c :: rest => escapedChar c :: unescape rest
  | c :: rest => c :: unescape rest

def trailingBackslashes (cs : List Char) : Nat := (cs.reverse.takeWhile (· == '\\')).length

-- An odd run of backslashes at the end continues the line.
def continues (line : List Char) : Bool := trailingBackslashes line % 2 == 1

end RegionWiring.Properties
