import AddressIntake.Http.MediaType

namespace AddressIntake.Http

/-- A header: its name in lower case, and its value as bytes. -/
structure Header where
  name : String
  value : List UInt8
  deriving DecidableEq, Repr

/-- Headers in their order. -/
abbrev HeaderBlock := List Header

namespace HeaderBlock

/-- The greatest number of headers in a block. -/
def maxLength : Nat := 32

/-- Whether a byte may stand in a name. -/
def isNameByte (b : UInt8) : Bool :=
  MediaType.isTokenChar (Char.ofNat b.toNat)

/-- Whether a byte may stand in a value. -/
def isValueByte (b : UInt8) : Bool :=
  b == 0x09 || (0x20 ≤ b && b != 0x7F)

/-- Whether a byte is a space or a tab. -/
def isGap (b : UInt8) : Bool :=
  b == 0x20 || b == 0x09

/-- Bytes without the gaps at their end. -/
def dropGapEnd (bytes : List UInt8) : List UInt8 :=
  (bytes.reverse.dropWhile isGap).reverse

/-- What follows the end of a line, if a line ends in front of the bytes: with a line feed, alone or
after a carriage return. -/
def afterLineEnd? : List UInt8 → Option (List UInt8)
  | 0x0A :: rest => some rest
  | 0x0D :: 0x0A :: rest => some rest
  | _ => none

/-- The header in the line in front of the bytes, and what follows the line. The colon stands at
once after the name. -/
def readHeader? (bytes : List UInt8) : Option (Header × List UInt8) :=
  let name := bytes.takeWhile isNameByte
  match bytes.dropWhile isNameByte with
  | 0x3A :: rest =>
    let value := rest.dropWhile isGap
    if name.isEmpty then none
    else
      (afterLineEnd? (value.dropWhile isValueByte)).map fun after =>
        (⟨MediaType.name (name.map fun b => Char.ofNat b.toNat),
          dropGapEnd (value.takeWhile isValueByte)⟩, after)
  | _ => none

/-- The headers in front of the bytes, of which there are at most the given number. What follows the
empty line after them counts for nothing. -/
def readHeaders? : Nat → List UInt8 → Option HeaderBlock
  | limit, bytes =>
    match afterLineEnd? bytes, limit with
    | some _, _ => some []
    | none, 0 => none
    | none, limit + 1 => do
      let (header, rest) ← readHeader? bytes
      return header :: (← readHeaders? limit rest)

/-- The headers in front of the bytes. -/
def ofBytes? (bytes : List UInt8) : Option HeaderBlock :=
  readHeaders? maxLength bytes

/-- The value of a header. Of headers with one name the last one counts. -/
def get? (block : HeaderBlock) (name : String) : Option (List UInt8) :=
  (block.reverse.find? (·.name == name)).map (·.value)

end HeaderBlock

end AddressIntake.Http
