import AddressIntake.Files.Basic

namespace AddressIntake

/-- The steps of a path, the dots among them, whether they start at the root, and whether a slash
follows the last one, which then has to lead to a folder. -/
structure Directions where
  rooted : Bool
  steps : List String
  toFolder : Bool
  deriving DecidableEq, Repr

namespace Directions

/-- The step that stays where it is. -/
def here : String := "."

/-- The step to the folder around. -/
def around : String := ".."

/-- The greatest number of bytes in a path. -/
def maxLength : Nat := 4095

/-- The steps in a text. -/
def split (s : String) : Directions where
  rooted := s.toList.head? == some '/'
  steps := ((s.toList.splitOnP (· == '/')).filter (!·.isEmpty)).map String.ofList
  toFolder := s.toList.getLast? == some '/'

/-- The directions that a text gives. -/
def ofText (s : String) : Except FileError Directions :=
  if s.toList.contains '\x00' then .error .invalidName
  else if s.isEmpty then .error .notFound
  else if maxLength < s.utf8ByteSize then .error .nameTooLong
  else .ok (split s)

/-- The directions to the folders on the way, the nearest to the end first. Steps that stay where
they are count for nothing. -/
def ancestors (directions : Directions) : List Directions :=
  let steps := directions.steps.filter (· != here)
  (List.range (steps.length - 1)).reverse.map fun n =>
    ⟨directions.rooted, steps.take (n + 1), false⟩

end Directions

end AddressIntake
