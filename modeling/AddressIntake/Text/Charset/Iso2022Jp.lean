import AddressIntake.Text.Charset.Table.Jis0208

namespace AddressIntake.Text.Iso2022Jp

/-- The set of characters in use. -/
inductive Mode where
  | ascii
  | roman
  | katakana
  | double
  deriving DecidableEq, Repr

namespace Mode

/-- The set that an escape sequence chooses. -/
def ofEscape? : UInt8 → UInt8 → Option Mode
  | 0x28, 0x42 => some ascii
  | 0x28, 0x4A => some roman
  | 0x28, 0x49 => some katakana
  | 0x24, 0x40 => some double
  | 0x24, 0x42 => some double
  | _, _ => none

/-- The character of a single byte. -/
def char? : Mode → UInt8 → Option Char
  | ascii, b => if b < 0x80 && b != 0x0E && b != 0x0F then some (Char.ofNat b.toNat) else none
  | roman, b =>
    if b == 0x5C then some '¥'
    else if b == 0x7E then some '‾'
    else if b < 0x80 && b != 0x0E && b != 0x0F then some (Char.ofNat b.toNat)
    else none
  | katakana, b =>
    if 0x21 ≤ b && b ≤ 0x5F then some (Char.ofNat (0xFF61 + b.toNat - 0x21)) else none
  | double, _ => none

end Mode

/-- Whether a byte is one of a pair. -/
def isPairByte (b : UInt8) : Bool := 0x21 ≤ b && b ≤ 0x7E

/-- The character of a pair of bytes. -/
def pair? (first second : UInt8) : Option Char :=
  if isPairByte second then
    CharTable.jis0208.char? ((first.toNat - 0x21) * 94 + (second.toNat - 0x21))
  else none

/-- The text of bytes from a set on. The Boolean tells whether an escape sequence stands right
before them: two in a row leave an unreadable character between them. -/
def decodeFrom : Mode → Bool → List UInt8 → List Char
  | _, _, [] => []
  | mode, escaped, first :: rest =>
    if first == 0x1B then
      match rest with
      | [] => ['\uFFFD']
      | [a] => '\uFFFD' :: decodeFrom mode false [a]
      | a :: b :: after =>
        match Mode.ofEscape? a b with
        | some next => (if escaped then ['\uFFFD'] else []) ++ decodeFrom next true after
        | none => '\uFFFD' :: decodeFrom mode false (a :: b :: after)
    else if mode == .double && isPairByte first then
      match rest with
      | [] => ['\uFFFD']
      | second :: after =>
        if second == 0x1B then '\uFFFD' :: decodeFrom mode false (second :: after)
        else (pair? first second).getD '\uFFFD' :: decodeFrom mode false after
    else (mode.char? first).getD '\uFFFD' :: decodeFrom mode false rest

/-- The text of bytes in ISO-2022-JP, in which escape sequences choose the set that the bytes after
them belong to. -/
def decode (bytes : List UInt8) : List Char :=
  decodeFrom .ascii false bytes

end AddressIntake.Text.Iso2022Jp
