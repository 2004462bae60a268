import AddressIntake.ShipToLookup
import AddressIntake.Policy

namespace AddressIntake

namespace Validation

/-- The error of a required field without a value. -/
def missing (number : Nat) (field : Field) : RowError :=
  ⟨number, field.label, s!"{field.label} is required"⟩

/-- The error of a value without the format of its field. -/
def malformed (number : Nat) (field : Field) (value : String) (rule : FormatRule) : RowError :=
  ⟨number, field.label, s!"Invalid {field.label} '{value}': expected {rule.hint}"⟩

/-- The error of a name of no ship-to address. -/
def unresolved (number : Nat) (name : String) : RowError :=
  ⟨number, Schema.label .installAt Schema.shipToKey,
    s!"Ship-to address '{name}' not found in this project"⟩

/-- The errors of one field of a row. -/
def checkField (required : List String) (number : Nat) (row : Row) (field : Field) :
    List RowError :=
  match row.value? field.key with
  | none => if required.contains field.key then [missing number field] else []
  | some value =>
    match field.format with
    | some rule => if rule.accepts value then [] else [malformed number field value rule]
    | none => []

/-- Whether a name is known. Without a lookup no name is. -/
def isKnown (lookup : Option ShipToLookup) (name : String) : Bool :=
  (lookup.bind (·.resolve? name)).isSome

/-- The errors of the reference of an install-at row. -/
def checkReference (lookup : Option ShipToLookup) (number : Nat) (row : Row) : List RowError :=
  match row.value? Schema.shipToKey with
  | some name => if isKnown lookup name then [] else [unresolved number name]
  | none => []

/-- The errors of a row with the given number: those of its fields in column order, then that of its
reference. -/
def checkRow (kind : AddressKind) (required : List String) (lookup : Option ShipToLookup)
    (number : Nat) (row : Row) : List RowError :=
  (Schema.fields kind).flatMap (checkField required number row) ++
    if kind == .installAt then checkReference lookup number row else []

/-- The errors of a list of rows in row order. Blank rows are passed over but keep their number. -/
def checkRows (kind : AddressKind) (required : List String) (lookup : Option ShipToLookup)
    (rows : List Row) : List RowError :=
  rows.zipIdx.flatMap fun (row, index) =>
    if row.isBlank then [] else checkRow kind required lookup (Row.number index) row

/-- A list without the elements that occur again later. -/
def distinct : List Nat → List Nat
  | [] => []
  | n :: rest => if rest.contains n then distinct rest else n :: distinct rest

/-- How many rows have an error. -/
def errorRowCount (errors : List RowError) : Nat :=
  (distinct (errors.map (·.row))).length

end Validation

/-- What is known about the file of an upload. -/
structure Source where
  fileKind : String
  encoding : Option String
  separator : Option Char
  headers : List String
  unrecognized : List String
  deriving DecidableEq, Repr

namespace Source

open Json

/-- The source of rows that came from no file. -/
def none : Source := ⟨"", .none, .none, [], []⟩

/-- The JSON object of a source. -/
def toJson (source : Source) : Json :=
  .obj [("fileKind", .str source.fileKind),
    ("encoding", Json.ofOption .str source.encoding),
    ("delimiter", Json.ofOption (fun c => .str (String.ofList [c])) source.separator),
    ("headers", Json.ofList .str source.headers),
    ("unrecognizedHeaders", Json.ofList .str source.unrecognized)]

/-- The source in a JSON record. -/
def decoder : Decoder Source :=
  Record.decoder <| Source.mk <$>
    Record.required "fileKind" Decoder.string <*>
    Record.optional "encoding" Decoder.string <*>
    Record.optional "delimiter" Decoder.char <*>
    Record.required "headers" (Decoder.list Decoder.string) <*>
    Record.required "unrecognizedHeaders" (Decoder.list Decoder.string)

end Source

/-- The result of checking an upload before anything is written. -/
structure ValidationResult where
  totalRows : Nat
  validRows : Nat
  errorRows : Nat
  errors : List RowError
  rows : List Row
  source : Source
  deriving DecidableEq

namespace ValidationResult

open Json

/-- The result for rows and their errors. -/
def summarize (rows : List Row) (errors : List RowError) : ValidationResult where
  totalRows := Row.filledCount rows
  validRows := Row.filledCount rows - Validation.errorRowCount errors
  errorRows := Validation.errorRowCount errors
  errors := errors
  rows := rows
  source := .none

/-- Whether no row has an error. -/
def isClean (result : ValidationResult) : Bool :=
  result.errors.isEmpty

/-- The JSON object of a result. -/
def toJson (result : ValidationResult) : Json :=
  .obj [("totalRows", .ofNat result.totalRows), ("validRows", .ofNat result.validRows),
    ("errorRows", .ofNat result.errorRows), ("errors", Json.ofList RowError.toJson result.errors),
    ("parsedRows", Json.ofList Row.toJson result.rows), ("source", result.source.toJson)]

/-- The result in a JSON record. -/
def decoder : Decoder ValidationResult :=
  Record.decoder <| ValidationResult.mk <$>
    Record.required "totalRows" (Decoder.unsigned Number.maxWord64) <*>
    Record.required "validRows" (Decoder.unsigned Number.maxWord64) <*>
    Record.required "errorRows" (Decoder.unsigned Number.maxWord64) <*>
    Record.required "errors" (Decoder.list RowError.decoder) <*>
    Record.required "parsedRows" (Decoder.list Row.decoder) <*>
    Record.withDefault "source" .none Source.decoder

end ValidationResult

end AddressIntake
