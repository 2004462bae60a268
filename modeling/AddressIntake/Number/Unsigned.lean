import AddressIntake.Text.Digit

namespace AddressIntake.Number

open Text

/-- The greatest number of a 64-bit word. -/
def maxWord64 : Nat := 18446744073709551615

/-- The greatest number of a 16-bit word. -/
def maxWord16 : Nat := 65535

/-- The number written by ASCII digits after an optional plus sign, if it is at most the limit. -/
def readUnsigned (limit : Nat) (s : String) : Option Nat :=
  let digits := match s.toList with
    | '+' :: rest => rest
    | cs => cs
  if digits.isEmpty || !digits.all isAsciiDigit then none
  else
    let n := ofDigits digits
    if n ≤ limit then some n else none

end AddressIntake.Number
