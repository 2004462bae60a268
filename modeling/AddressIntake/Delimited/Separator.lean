namespace AddressIntake.Delimited

/-- The separators that are looked for, in order of preference among equals. -/
def separators : List Char := [';', ',', '\t', '|']

/-- The characters before the first line feed. -/
def firstLine (cs : List Char) : List Char :=
  cs.takeWhile (· != '\n')

/-- The better of two separators with their counts: the earlier one unless the later one occurs more
often. -/
def moreFrequent (best : Char × Nat) (candidate : Char × Nat) : Char × Nat :=
  if best.2 < candidate.2 then candidate else best

/-- The separator that occurs most often in the first line, and a comma if none does. -/
def detectSeparator (cs : List Char) : Char :=
  ((separators.map fun sep => (sep, (firstLine cs).count sep)).foldl moreFrequent (',', 0)).1

end AddressIntake.Delimited
