import AddressIntake.Text.Utf8

namespace AddressIntake.Http.Disposition

/-- Whether a byte is white space. -/
def isBlankByte (b : UInt8) : Bool :=
  b == 0x20 || (0x09 ≤ b && b ≤ 0x0D && b != 0x0B)

/-- Whether the key of a parameter may start after a byte. -/
def isBoundaryByte (b : UInt8) : Bool :=
  isBlankByte b || b == 0x3B

/-- What follows a key at its first occurrence that starts a word. An occurrence within a word is
skipped, and the text after it is searched as if it stood alone. The number tells how many bytes are
still to be skipped, and the Boolean whether a key may start here. -/
def afterKey? (key : List UInt8) : Nat → Bool → List UInt8 → Option (List UInt8)
  | _, _, [] => none
  | skipped + 1, _, _ :: rest => afterKey? key skipped true rest
  | 0, free, b :: rest =>
    if !key.isPrefixOf (b :: rest) then afterKey? key 0 (isBoundaryByte b) rest
    else if free then some ((b :: rest).drop key.length)
    else afterKey? key (key.length - 1) true rest

/-- The value in quotes in front of the bytes, after the opening quote. A quote after a backslash
belongs to the value, without the backslash. -/
def quotedValue? : List UInt8 → Option (List UInt8)
  | [] => none
  | 0x5C :: 0x22 :: rest => (quotedValue? rest).map (0x22 :: ·)
  | 0x22 :: _ => some []
  | b :: rest => (quotedValue? rest).map (b :: ·)

/-- The value after an equals sign, in quotes or up to a semicolon or a space. -/
def value? (bytes : List UInt8) : Option (List UInt8) :=
  match bytes.dropWhile isBlankByte with
  | 0x3D :: rest =>
    match rest.dropWhile isBlankByte with
    | 0x22 :: quoted => quotedValue? quoted
    | plain => some (plain.takeWhile fun b => b != 0x3B && b != 0x20)
  | _ => none

/-- The value of a parameter such as `name="file"`, which is a text. A parameter is searched for,
whatever stands around it. -/
def parameter? (key : String) (disposition : List UInt8) : Option String := do
  let rest ← afterKey? (Text.Utf8.encode key.toList) 0 true disposition
  let value ← value? rest
  let text ← Text.Utf8.decode? value
  return String.ofList text

end AddressIntake.Http.Disposition
