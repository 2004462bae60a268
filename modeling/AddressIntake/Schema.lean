import AddressIntake.AddressKind
import AddressIntake.FormatRule

namespace AddressIntake

/-- A field: its key in rows, its label in column headers, whether it is required everywhere, the
format of its values, and what a template says about it. -/
structure Field where
  key : String
  label : String
  alwaysRequired : Bool
  format : Option FormatRule
  description : String
  sample : String
  deriving DecidableEq, Repr

namespace Field

/-- The JSON object of a field. -/
def toJson (field : Field) : Json :=
  .obj [("key", .str field.key), ("label", .str field.label),
    ("alwaysRequired", .bool field.alwaysRequired),
    ("formatRule", Json.ofOption FormatRule.toJson field.format),
    ("description", .str field.description), ("exampleValue", .str field.sample)]

end Field

namespace Schema

/-- The key of the field that names a ship-to address. -/
def shipToKey : String := "ship_to_name"

/-- The field that names the ship-to address of an install-at address. -/
def shipToField : Field :=
  ⟨shipToKey, "Ship To Company", true, none,
    "Company name of an existing ship-to address in this project", "Acme Corporation"⟩

/-- The fields of every kind of address. -/
def commonFields : List Field := [
  ⟨"company_name", "Company Name", false, none, "Legal or trading name of the company",
    "Acme Corporation"⟩,
  ⟨"contact_name", "Contact Name", false, none, "Person to contact at this address", "Jane Doe"⟩,
  ⟨"address_line1", "Address Line 1", true, none, "Street address", "123 Main Street"⟩,
  ⟨"address_line2", "Address Line 2", false, none, "Suite, floor or building", "Suite 400"⟩,
  ⟨"city", "City", true, none, "City or locality", "Springfield"⟩,
  ⟨"state", "State", true, none, "State, province or region", "IL"⟩,
  ⟨"postal_code", "Postal Code", false, some .postalCode, "ZIP or postal code", "62701"⟩,
  ⟨"country", "Country", true, none, "Country name or ISO code", "US"⟩,
  ⟨"phone", "Phone", false, some .phone,
    "Phone number, digits with optional +, spaces, dashes", "+1 555-123-4567"⟩,
  ⟨"email", "Email", false, some .email, "Contact email address", "billing@acme.example"⟩,
  ⟨"tax_id", "Tax ID", false, some .taxId, "National tax identifier", "123-45-6789"⟩,
  ⟨"vat_number", "VAT Number", false, some .vatNumber, "VAT number with country prefix",
    "DE123456789"⟩,
  ⟨"ein", "EIN", false, some .ein, "US employer identification number", "12-3456789"⟩,
  ⟨"notes", "Notes", false, none, "Free-form notes", "Dock door 3"⟩]

/-- The fields of a kind of address in column order. An install-at address has one more in front. -/
def fields : AddressKind → List Field
  | .installAt => shipToField :: commonFields
  | _ => commonFields

/-- The field with a given key. -/
def field? (kind : AddressKind) (key : String) : Option Field :=
  (fields kind).find? (·.key == key)

/-- The label of a key; a key of no field stands for itself. -/
def label (kind : AddressKind) (key : String) : String :=
  match field? kind key with
  | some field => field.label
  | none => key

end Schema

end AddressIntake
