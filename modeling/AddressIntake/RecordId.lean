import AddressIntake.Json.Reader
import AddressIntake.Json.Printer
import AddressIntake.Text.Blank

namespace AddressIntake

/-- A 128-bit identity as its 32 hexadecimal digits. -/
structure RecordId where
  digits : List (Fin 16)
  length_digits : digits.length = 32
  deriving DecidableEq

namespace RecordId

/-- The identity with all digits zero. -/
def zero : RecordId := ⟨List.replicate 32 0, by simp⟩

instance : Inhabited RecordId := ⟨zero⟩

/-- Digits in groups of the given sizes, separated by hyphens. -/
def grouped : List Nat → List Char → List Char
  | [], cs => cs
  | [_], cs => cs
  | n :: sizes, cs => cs.take n ++ '-' :: grouped sizes (cs.drop n)

/-- The identity of sixteen random bytes, marked as random by two of its digits. -/
def ofRandom (data : List UInt8) : RecordId :=
  let numbers := data.flatMap fun b => [b.toNat / 16, b.toNat % 16]
  let digits := ((numbers.set 12 4).set 16 (8 + numbers.getD 16 0 % 4)).map (Fin.ofNat 16)
  if h : digits.length = 32 then ⟨digits, h⟩ else zero

/-- The sizes of the groups. -/
def groups : List Nat := [8, 4, 4, 4, 12]

/-- The grouped spelling in lower case. -/
def toText (id : RecordId) : String :=
  String.ofList (grouped groups (id.digits.map fun d => Json.hexDigit d.val))

/-- The value of a hexadecimal digit below sixteen. -/
def digit? (c : Char) : Option (Fin 16) :=
  (Json.hexValue? c).map (Fin.ofNat 16)

/-- The identity of 32 hexadecimal digits. -/
def ofDigits? (cs : List Char) : Option RecordId :=
  match cs.mapM digit? with
  | none => none
  | some digits => if h : digits.length = 32 then some ⟨digits, h⟩ else none

/-- The digits of a grouped spelling without its hyphens, which have to stand between the groups. -/
def ungrouped? : List Nat → List Char → Option (List Char)
  | [], cs => if cs.isEmpty then some [] else none
  | [n], cs => if cs.length == n then some cs else none
  | n :: sizes, cs =>
    if (cs.take n).length == n then
      match cs.drop n with
      | '-' :: rest => (ungrouped? sizes rest).map (cs.take n ++ ·)
      | _ => none
    else none

/-- The identity of a grouped spelling. -/
def ofGrouped? (cs : List Char) : Option RecordId :=
  (ungrouped? groups cs).bind ofDigits?

/-- The inside of a text in braces. -/
def braced? : List Char → Option (List Char)
  | '{' :: rest => if rest.getLast? == some '}' then some rest.dropLast else none
  | _ => none

/-- What follows a leading text, which may be in capitals. -/
def after? (lead : List Char) (cs : List Char) : Option (List Char) :=
  if (cs.take lead.length).map Char.toLower == lead then some (cs.drop lead.length) else none

/-- The identity of a text, in either case of letters: bare digits, grouped digits, grouped digits
in braces, or grouped digits after `urn:uuid:`. -/
def parse? (s : String) : Option RecordId :=
  let cs := s.toList
  if cs.length == 32 then ofDigits? cs
  else if cs.length == 36 then ofGrouped? cs
  else if cs.length == 38 then (braced? cs).bind ofGrouped?
  else if cs.length == 45 then (after? "urn:uuid:".toList cs).bind ofGrouped?
  else none

/-- The identity that a user types, with white space around it. -/
def parseTrimmed? (s : String) : Option RecordId :=
  parse? (Text.trim s)

/-- The JSON text of an identity. -/
def toJson (id : RecordId) : Json :=
  .str id.toText

/-- The identity in a JSON text. -/
def decoder : Json.Decoder RecordId :=
  Json.Decoder.string.filterMap parse?

end RecordId

end AddressIntake
