namespace AddressIntake.Text

/-- Characters in rows of one width. A space stands at a position without a character, and positions
at the end of a row may be left out. -/
structure CharTable where
  width : Nat
  rows : List String

namespace CharTable

/-- The character at a position. -/
def char? (table : CharTable) (position : Nat) : Option Char := do
  let row ← table.rows[position / table.width]?
  let c ← row.toList[position % table.width]?
  if c == ' ' then none else some c

end CharTable

end AddressIntake.Text
