import AddressIntake.Text.Case
import AddressIntake.Text.Utf8

namespace AddressIntake.Text.Encoding

/-- The mark that may open a text and belongs to none. -/
def byteOrderMark : Char := '\uFEFF'

/-- The characters of the bytes 0x80 to 0x9F in Windows-1252. -/
def windows1252High : List Char := [
    '€', '\u0081', '‚', 'ƒ', '„', '…', '†', '‡', 'ˆ', '‰', 'Š', '‹', 'Œ', '\u008D', 'Ž', '\u008F',
    '\u0090', '‘', '’', '“', '”', '•', '–', '—', '˜', '™', 'š', '›', 'œ', '\u009D', 'ž', 'Ÿ']

/-- The character of a byte in Windows-1252. -/
def windows1252Char (b : UInt8) : Char :=
  if b.toNat < 0x80 then Char.ofNat b.toNat
  else (windows1252High[b.toNat - 0x80]?).getD (Char.ofNat b.toNat)

/-- The 16-bit units of a byte list; an odd byte at the end is returned apart. -/
def utf16Units (bigEndian : Bool) : List UInt8 → List Nat × Bool
  | [] => ([], false)
  | [_] => ([], true)
  | a :: b :: rest =>
    let tail := utf16Units bigEndian rest
    let unit := if bigEndian then a.toNat * 256 + b.toNat else b.toNat * 256 + a.toNat
    (unit :: tail.1, tail.2)

/-- The first half of a surrogate pair. -/
def isHighSurrogate (n : Nat) : Bool := 0xD800 ≤ n && n ≤ 0xDBFF

/-- The second half of a surrogate pair. -/
def isLowSurrogate (n : Nat) : Bool := 0xDC00 ≤ n && n ≤ 0xDFFF

/-- The character of a surrogate pair. -/
def surrogatePair (high low : Nat) : Char :=
  Char.ofNat (0x10000 + (high - 0xD800) * 0x400 + (low - 0xDC00))

/-- The text of 16-bit units with U+FFFD for each unpaired surrogate. The first argument is a high
surrogate waiting for its partner. At the end, a waiting surrogate and an odd byte together stand
for one unreadable character. -/
def utf16Text (odd : Bool) : Option Nat → List Nat → List Char
  | none, [] => if odd then ['\uFFFD'] else []
  | some _, [] => ['\uFFFD']
  | none, n :: rest =>
    if isHighSurrogate n then utf16Text odd (some n) rest
    else if isLowSurrogate n then '\uFFFD' :: utf16Text odd none rest
    else Char.ofNat n :: utf16Text odd none rest
  | some high, n :: rest =>
    if isLowSurrogate n then surrogatePair high n :: utf16Text odd none rest
    else if isHighSurrogate n then '\uFFFD' :: utf16Text odd (some n) rest
    else '\uFFFD' :: Char.ofNat n :: utf16Text odd none rest

/-- The text of UTF-16 bytes. -/
def decodeUtf16 (bigEndian : Bool) (bytes : List UInt8) : List Char :=
  let units := utf16Units bigEndian bytes
  utf16Text units.2 none units.1

/-- The text of bytes that a byte order mark may declare to be UTF-8 or UTF-16; without one they are
decoded as given. -/
def decodeMarked (unmarked : List UInt8 → List Char) : List UInt8 → List Char
  | 0xEF :: 0xBB :: 0xBF :: rest => Utf8.decodeLossy rest
  | 0xFF :: 0xFE :: rest => decodeUtf16 false rest
  | 0xFE :: 0xFF :: rest => decodeUtf16 true rest
  | bytes => unmarked bytes

/-- The text of bytes in Windows-1252, unless a byte order mark says otherwise. -/
def decodeWindows1252 : List UInt8 → List Char :=
  decodeMarked (·.map windows1252Char)

/-- The name under which the charset named by a detector is reported. -/
def ofDetected (charset : String) : String :=
  let name := lowercase charset
  if ["ascii", "utf-8", "utf8", "utf-8-sig", ""].contains name then "utf-8"
  else if ["iso-8859-1", "iso-8859-15", "latin-1", "latin1"].contains name then "iso-8859-1"
  else if ["windows-1252", "cp1252"].contains name then "windows-1252"
  else charset

/-- The names under which bytes are read as Windows-1252. -/
def latinNames : List String :=
  ["iso-8859-1", "latin-1", "latin1", "windows-1252", "cp1252"]

/-- The text of the bytes in the named charset, without one leading byte order mark. Every name that
is not one of the Latin-1 family stands for UTF-8. -/
def decode (name : String) (bytes : List UInt8) : List Char :=
  let text :=
    if latinNames.contains (lowercase name) then decodeWindows1252 bytes
    else Utf8.decodeLossy bytes
  match text with
  | c :: rest => if c == byteOrderMark then rest else text
  | [] => []

end AddressIntake.Text.Encoding
