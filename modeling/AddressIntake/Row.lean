import AddressIntake.FieldMap
import AddressIntake.Text.Blank
import AddressIntake.Number.Unsigned

namespace AddressIntake

/-- The cells of a data row by field key. -/
abbrev Row := FieldMap String

namespace Row

/-- The trimmed cell of a key, if there is one that is not blank. -/
def value? (row : Row) (key : String) : Option String :=
  match FieldMap.get? row key with
  | some cell => if Text.isBlank cell then none else some (Text.trim cell)
  | none => none

/-- Whether all cells of the row are blank. -/
def isBlank (row : Row) : Bool :=
  row.entries.all fun entry => Text.isBlank entry.2

/-- The number under which a row is shown. The header is row 1. -/
def number (index : Nat) : Nat :=
  index + 2

/-- How many rows are not blank. -/
def filledCount (rows : List Row) : Nat :=
  rows.countP (!·.isBlank)

/-- The JSON object of a row. -/
def toJson (row : Row) : Json :=
  FieldMap.toJson .str row

/-- The row in a JSON object. -/
def decoder : Json.Decoder Row :=
  FieldMap.decoder Json.Decoder.string

end Row

/-- Something wrong with one row, with the number and the label under which the user knows the
place. -/
structure RowError where
  row : Nat
  field : String
  message : String
  deriving DecidableEq, Repr

namespace RowError

open Json

/-- The error in one line. -/
def toText (e : RowError) : String :=
  s!"Row {e.row}, {e.field}: {e.message}"

/-- The JSON object of an error. -/
def toJson (e : RowError) : Json :=
  .obj [("row", .ofNat e.row), ("field", .str e.field), ("message", .str e.message)]

/-- The error in a JSON record. -/
def decoder : Decoder RowError :=
  Record.decoder <| RowError.mk <$>
    Record.required "row" (Decoder.unsigned Number.maxWord64) <*>
    Record.required "field" Decoder.string <*>
    Record.required "message" Decoder.string

end RowError

end AddressIntake
