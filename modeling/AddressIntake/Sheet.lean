import AddressIntake.Delimited.Writer
import AddressIntake.Policy
import AddressIntake.ShipToLookup
import AddressIntake.Text.Utf8

namespace AddressIntake

/-- A table with a title, a header and rows. -/
structure Sheet where
  title : String
  headers : List String
  rows : List (List String)
  deriving DecidableEq, Repr

/-- Why a sheet cannot be rendered. -/
inductive RenderError where
  | unevenRecords (width previous : Nat)
  | flush (reason : String)
  deriving DecidableEq, Repr

/-- The wording of an error. -/
def RenderError.message : RenderError → String
  | unevenRecords width previous =>
    "CSV render error: CSV error: found record with " ++ toString width ++
      " fields, but the previous record has " ++ toString previous ++ " fields"
  | flush reason => s!"Failed to flush rendered document: {reason}"

namespace Sheet

/-- The media type of a rendered sheet. -/
def contentType : String := "text/csv; charset=utf-8"

/-- The extension of the file of a rendered sheet. -/
def fileExtension : String := "csv"

/-- The text of a sheet: the header and the rows, all of one width. -/
def render (sheet : Sheet) : Except RenderError (List Char) :=
  match Delimited.write sheet.headers.length (sheet.headers :: sheet.rows) with
  | .ok text => .ok text
  | .error width => .error (.unevenRecords width sheet.headers.length)

/-- The JSON object of a sheet. -/
def toJson (sheet : Sheet) : Json :=
  .obj [("title", .str sheet.title), ("headers", Json.ofList .str sheet.headers),
    ("rows", Json.ofList (Json.ofList .str) sheet.rows)]

/-- A sheet with one row for each error. -/
def ofErrors (errors : List RowError) : Sheet where
  title := "Import Errors"
  headers := ["Row", "Field", "Message"]
  rows := errors.map fun e => [toString e.row, e.field, e.message]

/-- What the header of a required column ends with. -/
def requiredSuffix : String := " *"

/-- The title of a sheet of addresses. -/
def addressTitle (kind : AddressKind) : String :=
  s!"{kind.label} Addresses"

/-- The header of a column in a template. -/
def templateHeader (flags : PolicyFlags) (field : Field) : String :=
  if Policy.isRequired field.alwaysRequired ((flags.get? field.key).getD false) then
    field.label ++ requiredSuffix
  else field.label

/-- A template for uploads: a column for each field and one row of sample values. -/
def template (kind : AddressKind) (flags : PolicyFlags) : Sheet where
  title := addressTitle kind
  headers := (Schema.fields kind).map (templateHeader flags)
  rows := [(Schema.fields kind).map (·.sample)]

/-- The company names of ship-to addresses by record. The last address with an identity counts. -/
def shipToNames (addresses : List Address) : List (RecordId × String) :=
  addresses.foldl (fun names address =>
    match address.fields.companyName with
    | some name => names.filter (·.1 != address.id) ++ [(address.id, name)]
    | none => names) []

/-- The value of a field in an export. -/
def exportCell (names : List (RecordId × String)) (address : Address) (field : Field) : String :=
  if field.key == Schema.shipToKey then (address.shipTo.bind fun id => names.lookup id).getD ""
  else (address.fields.get? field.key).getD ""

/-- A sheet with one row for each address. -/
def ofAddresses (kind : AddressKind) (addresses : List Address)
    (names : List (RecordId × String)) : Sheet where
  title := addressTitle kind
  headers := (Schema.fields kind).map (·.label)
  rows := addresses.map fun address => (Schema.fields kind).map (exportCell names address)

end Sheet

end AddressIntake
