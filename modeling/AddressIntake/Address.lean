import AddressIntake.AddressKind
import AddressIntake.RecordId
import AddressIntake.Row
import AddressIntake.Timestamp

namespace AddressIntake

open Json

/-- The values of the fields that all kinds of address share. -/
structure AddressFields where
  companyName : Option String
  contactName : Option String
  addressLine1 : String
  addressLine2 : Option String
  city : String
  state : String
  postalCode : Option String
  country : String
  phone : Option String
  email : Option String
  taxId : Option String
  vatNumber : Option String
  ein : Option String
  notes : Option String
  deriving DecidableEq, Repr

namespace AddressFields

/-- The trimmed cells of a row. A missing value of a required field is empty. -/
def ofRow (row : Row) : AddressFields where
  companyName := row.value? "company_name"
  contactName := row.value? "contact_name"
  addressLine1 := (row.value? "address_line1").getD ""
  addressLine2 := row.value? "address_line2"
  city := (row.value? "city").getD ""
  state := (row.value? "state").getD ""
  postalCode := row.value? "postal_code"
  country := (row.value? "country").getD ""
  phone := row.value? "phone"
  email := row.value? "email"
  taxId := row.value? "tax_id"
  vatNumber := row.value? "vat_number"
  ein := row.value? "ein"
  notes := row.value? "notes"

/-- The value of the field with a key. -/
def get? (fields : AddressFields) (key : String) : Option String :=
  match key with
  | "company_name" => fields.companyName
  | "contact_name" => fields.contactName
  | "address_line1" => some fields.addressLine1
  | "address_line2" => fields.addressLine2
  | "city" => some fields.city
  | "state" => some fields.state
  | "postal_code" => fields.postalCode
  | "country" => some fields.country
  | "phone" => fields.phone
  | "email" => fields.email
  | "tax_id" => fields.taxId
  | "vat_number" => fields.vatNumber
  | "ein" => fields.ein
  | "notes" => fields.notes
  | _ => none

/-- The members of a record that hold the fields. -/
def members (fields : AddressFields) : List (String × Json) :=
  [("companyName", Json.ofOption .str fields.companyName),
    ("contactName", Json.ofOption .str fields.contactName),
    ("addressLine1", .str fields.addressLine1),
    ("addressLine2", Json.ofOption .str fields.addressLine2),
    ("city", .str fields.city),
    ("state", .str fields.state),
    ("postalCode", Json.ofOption .str fields.postalCode),
    ("country", .str fields.country),
    ("phone", Json.ofOption .str fields.phone),
    ("email", Json.ofOption .str fields.email),
    ("taxId", Json.ofOption .str fields.taxId),
    ("vatNumber", Json.ofOption .str fields.vatNumber),
    ("ein", Json.ofOption .str fields.ein),
    ("notes", Json.ofOption .str fields.notes)]

/-- The fields of an object alone. -/
def toJson (fields : AddressFields) : Json :=
  .obj fields.members

/-- The fields among the members of a record. -/
def record : Record AddressFields :=
  AddressFields.mk <$>
    Record.optional "companyName" Decoder.string <*>
    Record.optional "contactName" Decoder.string <*>
    Record.required "addressLine1" Decoder.string <*>
    Record.optional "addressLine2" Decoder.string <*>
    Record.required "city" Decoder.string <*>
    Record.required "state" Decoder.string <*>
    Record.optional "postalCode" Decoder.string <*>
    Record.required "country" Decoder.string <*>
    Record.optional "phone" Decoder.string <*>
    Record.optional "email" Decoder.string <*>
    Record.optional "taxId" Decoder.string <*>
    Record.optional "vatNumber" Decoder.string <*>
    Record.optional "ein" Decoder.string <*>
    Record.optional "notes" Decoder.string

end AddressFields

/-- An address to be created. -/
structure NewAddress where
  project : String
  kind : AddressKind
  fields : AddressFields
  shipTo : Option RecordId
  deriving DecidableEq

namespace NewAddress

/-- The JSON object of an address to be created. -/
def toJson (new : NewAddress) : Json :=
  .obj ([("projectId", .str new.project), ("addressType", new.kind.toJson)] ++
    new.fields.members ++ [("shipToId", Json.ofOption RecordId.toJson new.shipTo)])

/-- The address to be created in a JSON object. -/
def decoder : Decoder NewAddress :=
  Record.openDecoder <| NewAddress.mk <$>
    Record.required "projectId" Decoder.string <*>
    Record.required "addressType" AddressKind.decoder <*>
    AddressFields.record <*>
    Record.optional "shipToId" RecordId.decoder

end NewAddress

/-- The identity and the moment that a new record receives. -/
structure Stamp where
  id : RecordId
  createdAt : Timestamp
  deriving DecidableEq

/-- A stored address. -/
structure Address where
  id : RecordId
  project : String
  kind : AddressKind
  fields : AddressFields
  shipTo : Option RecordId
  createdAt : Timestamp
  deriving DecidableEq

namespace Address

/-- The record of an address to be created. -/
def ofNew (stamp : Stamp) (new : NewAddress) : Address :=
  ⟨stamp.id, new.project, new.kind, new.fields, new.shipTo, stamp.createdAt⟩

/-- The JSON object of a stored address. -/
def toJson (address : Address) : Json :=
  .obj ([("id", address.id.toJson), ("projectId", .str address.project),
      ("addressType", address.kind.toJson)] ++
    address.fields.members ++
    [("shipToId", Json.ofOption RecordId.toJson address.shipTo),
      ("createdAt", address.createdAt.toJson)])

/-- The stored address in a JSON object. -/
def decoder : Decoder Address :=
  Record.openDecoder <| Address.mk <$>
    Record.required "id" RecordId.decoder <*>
    Record.required "projectId" Decoder.string <*>
    Record.required "addressType" AddressKind.decoder <*>
    AddressFields.record <*>
    Record.optional "shipToId" RecordId.decoder <*>
    Record.required "createdAt" Timestamp.decoder

end Address

end AddressIntake
