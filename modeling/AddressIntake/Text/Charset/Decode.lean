import AddressIntake.Text.Charset.Basic
import AddressIntake.Text.Charset.EucJp
import AddressIntake.Text.Charset.Gb18030
import AddressIntake.Text.Charset.Iso2022Jp
import AddressIntake.Text.Charset.Paired
import AddressIntake.Text.Charset.Table.SingleByte
import AddressIntake.Text.Encoding

namespace AddressIntake.Text

/-- The character of a byte in a charset with the given last characters; the others up to 0x9F are
ASCII and control characters. A space among the last characters stands for none. -/
def SingleByte.char (last : List Char) (b : UInt8) : Char :=
  let first := 0x100 - last.length
  let given := if b.toNat < first then ' ' else (last[b.toNat - first]?).getD ' '
  if given != ' ' then given
  else if b < 0xA0 then Char.ofNat b.toNat
  else '\uFFFD'

/-- The text of bytes in a charset in which each byte is a character. -/
def SingleByte.decode (last : String) (bytes : List UInt8) : List Char :=
  bytes.map (char last.toList)

namespace Charset

/-- The character of a byte when those from 0x80 on are for private use. -/
def privateChar (b : UInt8) : Char :=
  if b < 0x80 then Char.ofNat b.toNat else Char.ofNat (0xF700 + b.toNat)

/-- The text of bytes in a charset. Nothing fails: what has no meaning becomes U+FFFD. -/
def decode : Charset → List UInt8 → List Char
  | utf8 => Utf8.decodeLossy
  | utf16le => Encoding.decodeUtf16 false
  | utf16be => Encoding.decodeUtf16 true
  | cp866 => SingleByte.decode SingleByte.cp866
  | latin2 => SingleByte.decode SingleByte.latin2
  | latin3 => SingleByte.decode SingleByte.latin3
  | latin4 => SingleByte.decode SingleByte.latin4
  | isoCyrillic => SingleByte.decode SingleByte.isoCyrillic
  | isoArabic => SingleByte.decode SingleByte.isoArabic
  | isoGreek => SingleByte.decode SingleByte.isoGreek
  | isoHebrew => SingleByte.decode SingleByte.isoHebrew
  | latin6 => SingleByte.decode SingleByte.latin6
  | latin7 => SingleByte.decode SingleByte.latin7
  | latin8 => SingleByte.decode SingleByte.latin8
  | latin9 => SingleByte.decode SingleByte.latin9
  | latin10 => SingleByte.decode SingleByte.latin10
  | koi8r => SingleByte.decode SingleByte.koi8r
  | koi8u => SingleByte.decode SingleByte.koi8u
  | macRoman => SingleByte.decode SingleByte.macRoman
  | macCyrillic => SingleByte.decode SingleByte.macCyrillic
  | windows874 => SingleByte.decode SingleByte.windows874
  | windows1250 => SingleByte.decode SingleByte.windows1250
  | windows1251 => SingleByte.decode SingleByte.windows1251
  | windows1252 => List.map Encoding.windows1252Char
  | windows1253 => SingleByte.decode SingleByte.windows1253
  | windows1254 => SingleByte.decode SingleByte.windows1254
  | windows1255 => SingleByte.decode SingleByte.windows1255
  | windows1256 => SingleByte.decode SingleByte.windows1256
  | windows1257 => SingleByte.decode SingleByte.windows1257
  | windows1258 => SingleByte.decode SingleByte.windows1258
  | gb18030 => Gb18030.decode
  | big5 => Paired.big5.decode
  | eucJp => EucJp.decode
  | iso2022Jp => Iso2022Jp.decode
  | shiftJis => Paired.shiftJis.decode
  | eucKr => Paired.eucKr.decode
  | userDefined => List.map privateChar
  | replacement => fun bytes => if bytes.isEmpty then [] else ['\uFFFD']

/-- The text of bytes in the charset that a label names, or in UTF-8 if there is no such charset. A
byte order mark wins over the label. -/
def decodeLabelled (label : String) : List UInt8 → List Char :=
  Encoding.decodeMarked ((ofLabel? label).getD utf8).decode

end Charset

end AddressIntake.Text
