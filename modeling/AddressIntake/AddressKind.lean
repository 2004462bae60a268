import AddressIntake.Json.Decoder
import AddressIntake.Text.Blank
import AddressIntake.Text.Case
import AddressIntake.Text.Digit

namespace AddressIntake

/-- The role of an address. An install-at address belongs to a ship-to address of its project. -/
inductive AddressKind where
  | billFrom
  | shipFrom
  | billTo
  | shipTo
  | installAt
  deriving DecidableEq, Repr, Inhabited

namespace AddressKind

/-- All roles, in the order in which they are listed. -/
def all : List AddressKind := [billFrom, shipFrom, billTo, shipTo, installAt]

/-- The name of a role in files and requests. -/
def tag : AddressKind → String
  | billFrom => "bill_from"
  | shipFrom => "ship_from"
  | billTo => "bill_to"
  | shipTo => "ship_to"
  | installAt => "install_at"

/-- The name of a role in titles. -/
def label : AddressKind → String
  | billFrom => "Bill From"
  | shipFrom => "Ship From"
  | billTo => "Bill To"
  | shipTo => "Ship To"
  | installAt => "Install At"

/-- An ASCII letter or digit. -/
def isNameChar (c : Char) : Bool :=
  c.isAlpha || Text.isAsciiDigit c

/-- The role that a text names. Case does not count, nor does any character that is no ASCII letter
or digit. -/
def parse? (s : String) : Option AddressKind :=
  match String.ofList ((Text.lowercase (Text.trim s)).toList.filter isNameChar) with
  | "billfrom" => some billFrom
  | "shipfrom" => some shipFrom
  | "billto" => some billTo
  | "shipto" => some shipTo
  | "installat" => some installAt
  | _ => none

/-- The role with a given tag. -/
def ofTag? (tag : String) : Option AddressKind :=
  all.find? (·.tag == tag)

/-- The JSON text of a role. -/
def toJson (kind : AddressKind) : Json :=
  .str kind.tag

/-- The role in a JSON tag. -/
def decoder : Json.Decoder AddressKind :=
  Json.Decoder.choice ofTag?

theorem ofTag?_tag (kind : AddressKind) : ofTag? kind.tag = some kind := by
  cases kind <;> decide

end AddressKind

end AddressIntake
