import AddressIntake.Json.Basic
import AddressIntake.Pattern
import AddressIntake.Text.Blank
import AddressIntake.Text.Digit

namespace AddressIntake

/-- A format for the values of a field. -/
inductive FormatRule where
  | postalCode
  | phone
  | email
  | taxId
  | vatNumber
  | ein
  deriving DecidableEq, Repr

namespace FormatRule

open Text

/-- All rules. -/
def all : List FormatRule := [postalCode, phone, email, taxId, vatNumber, ein]

/-- The name of a rule. -/
def tag : FormatRule → String
  | postalCode => "postal_code"
  | phone => "phone"
  | email => "email"
  | taxId => "tax_id"
  | vatNumber => "vat_number"
  | ein => "ein"

/-- The rule with a given name. -/
def ofTag? (tag : String) : Option FormatRule :=
  all.find? (·.tag == tag)

/-- The JSON text of a rule. -/
def toJson (rule : FormatRule) : Json :=
  .str rule.tag

/-- An ASCII letter or digit. -/
def isAlnum (c : Char) : Bool :=
  c.isAlpha || isAsciiDigit c

/-- Whether a character is one of those in a text. -/
def isOneOf (marks : String) (c : Char) : Bool :=
  marks.toList.contains c

/-- A character of an email address around the `@`. -/
def isEmailChar (c : Char) : Bool :=
  !isBlankChar c && c != '@'

/-- The form of the values that a rule accepts. -/
def pattern : FormatRule → Pattern
  | postalCode => [.one isAlnum, ⟨fun c => isAlnum c || isOneOf " -" c, 1, some 8⟩, .one isAlnum]
  | phone =>
    [.optional (· == '+'), .one fun c => isAsciiDigit c || c == '(',
      ⟨fun c => isAsciiDigit c || isOneOf " ().-" c, 5, some 18⟩, .one isAsciiDigit]
  | email =>
    [.atLeast 1 isEmailChar, .one (· == '@'), .atLeast 1 isEmailChar, .one (· == '.'),
      .atLeast 2 Char.isAlpha]
  | taxId =>
    [.one isAlnum, ⟨fun c => isAlnum c || isOneOf "-./ " c, 3, some 18⟩, .one isAlnum]
  | vatNumber =>
    [.exactly 2 Char.isAlpha, ⟨fun c => isAlnum c || isOneOf "+*. " c, 2, some 14⟩]
  | ein => [.exactly 2 isDecimalDigit, .optional (· == '-'), .exactly 7 isDecimalDigit]

/-- What a value of the format looks like. -/
def hint : FormatRule → String
  | postalCode => "3-10 letters or digits, spaces and dashes allowed"
  | phone => "digits with optional leading +, spaces, dashes, dots or parentheses"
  | email => "an address like name@example.com"
  | taxId => "5-20 letters or digits, separators allowed"
  | vatNumber => "two-letter country prefix followed by the number"
  | ein => "9 digits formatted as NN-NNNNNNN"

/-- Whether a value has the format. White space around it does not count, and a blank value has
every format. -/
def accepts (rule : FormatRule) (value : String) : Bool :=
  isBlank value || rule.pattern.accepts (trim value).toList

end FormatRule

end AddressIntake
