import AddressIntake.Text.Charset.Table.Big5
import AddressIntake.Text.Charset.Table.Hangul
import AddressIntake.Text.Charset.Table.Jis0208

namespace AddressIntake.Text

/-- What the first byte of a character says: the character itself, that one more byte follows, or
nothing when no character starts with this byte. -/
inductive Paired.Lead where
  | char (c : Char)
  | pair
  | invalid

/-- A charset of characters of one or two bytes: the meaning of first bytes, and the characters that
a pair of bytes stands for, which are none if the pair stands for nothing. -/
structure Paired where
  lead : UInt8 → Paired.Lead
  pair : UInt8 → UInt8 → List Char

namespace Paired

/-- The text of bytes. A pair without a meaning is one unreadable character; its second byte is read
again if it is an ASCII character. -/
def decode (set : Paired) : List UInt8 → List Char
  | [] => []
  | first :: rest =>
    match set.lead first with
    | .char c => c :: decode set rest
    | .invalid => '\uFFFD' :: decode set rest
    | .pair =>
      match rest with
      | [] => ['\uFFFD']
      | second :: after =>
        match set.pair first second with
        | [] => '\uFFFD' :: if second < 0x80 then decode set (second :: after) else decode set after
        | cs => cs ++ decode set after

/-- The number of a byte among those of two ranges: from 0x40 to 0x7E, and from another one on. -/
def column? (second last b : UInt8) : Option Nat :=
  if 0x40 ≤ b && b ≤ 0x7E then some (b.toNat - 0x40)
  else if second ≤ b && b ≤ last then some (b.toNat - second.toNat + 0x3F)
  else none

/-- The characters of the pairs in Big5 that stand for a letter and its accents. -/
def accented (position : Nat) : List Char :=
  match position with
  | 1133 => ['\u00CA', '\u0304']
  | 1135 => ['\u00CA', '\u030C']
  | 1164 => ['\u00EA', '\u0304']
  | 1166 => ['\u00EA', '\u030C']
  | _ => []

/-- Big5: second bytes are from 0x40 to 0x7E and from 0xA1 to 0xFE. -/
def big5 : Paired where
  lead b :=
    if b < 0x80 then .char (Char.ofNat b.toNat)
    else if 0x81 ≤ b && b ≤ 0xFE then .pair
    else .invalid
  pair first second :=
    match column? 0xA1 0xFE second with
    | none => []
    | some column =>
      let position := (first.toNat - 0x81) * 157 + column
      (CharTable.big5.char? position).elim (accented position) (fun c => [c])

/-- EUC-KR with its extension: second bytes are from 0x41 to 0xFE. -/
def eucKr : Paired where
  lead b :=
    if b < 0x80 then .char (Char.ofNat b.toNat)
    else if 0x81 ≤ b && b ≤ 0xFE then .pair
    else .invalid
  pair first second :=
    if 0x41 ≤ second && second ≤ 0xFE then
      (CharTable.hangul.char? ((first.toNat - 0x81) * 190 + (second.toNat - 0x41))).toList
    else []

/-- The narrow Katakana of a byte between 0xA1 and 0xDF. -/
def narrowKatakana (b : UInt8) : Char :=
  Char.ofNat (0xFF61 + b.toNat - 0xA1)

/-- Shift JIS: second bytes are from 0x40 to 0x7E and from 0x80 to 0xFC, and the pairs of ten first
bytes are for private use. -/
def shiftJis : Paired where
  lead b :=
    if b ≤ 0x80 then .char (Char.ofNat b.toNat)
    else if 0xA1 ≤ b && b ≤ 0xDF then .char (narrowKatakana b)
    else if b == 0xA0 || 0xFD ≤ b then .invalid
    else .pair
  pair first second :=
    match column? 0x80 0xFC second with
    | none => []
    | some column =>
      let row := first.toNat - if first < 0xA0 then 0x81 else 0xC1
      let position := row * 188 + column
      if 8836 ≤ position && position ≤ 10715 then [Char.ofNat (0xE000 + position - 8836)]
      else (CharTable.jis0208.char? position).toList

end Paired

end AddressIntake.Text
