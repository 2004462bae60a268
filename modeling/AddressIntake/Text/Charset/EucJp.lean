import AddressIntake.Text.Charset.Paired
import AddressIntake.Text.Charset.Table.Jis0212

namespace AddressIntake.Text.EucJp

/-- Whether a byte is one of a pair. -/
def isPairByte (b : UInt8) : Bool := 0xA1 ≤ b && b ≤ 0xFE

/-- The character of a pair of bytes in a set. -/
def pair? (table : CharTable) (first second : UInt8) : Option Char :=
  if isPairByte first && isPairByte second then
    table.char? ((first.toNat - 0xA1) * 94 + (second.toNat - 0xA1))
  else none

/-- The character of two bytes: narrow Katakana after 0x8E, and one of the main set of Japanese
characters otherwise. -/
def char? (first second : UInt8) : Option Char :=
  if first == 0x8E then
    if 0xA1 ≤ second && second ≤ 0xDF then some (Paired.narrowKatakana second) else none
  else pair? .jis0208 first second

/-- The text of bytes in EUC-JP. Two bytes after 0x8F stand for a character of the supplementary
set. Bytes without a meaning are one unreadable character; the last of them is read again if it is
an ASCII character. -/
def decode : List UInt8 → List Char
  | [] => []
  | first :: rest =>
    if first < 0x80 then Char.ofNat first.toNat :: decode rest
    else if first == 0x8E || first == 0x8F || isPairByte first then
      match rest with
      | [] => ['\uFFFD']
      | second :: after =>
        if first == 0x8F && isPairByte second then
          match after with
          | [] => ['\uFFFD']
          | third :: later =>
            match pair? .jis0212 second third with
            | some c => c :: decode later
            | none => '\uFFFD' :: if third < 0x80 then decode (third :: later) else decode later
        else
          match char? first second with
          | some c => c :: decode after
          | none => '\uFFFD' :: if second < 0x80 then decode (second :: after) else decode after
    else '\uFFFD' :: decode rest

end AddressIntake.Text.EucJp
