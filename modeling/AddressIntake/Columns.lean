import AddressIntake.Row
import AddressIntake.Schema
import AddressIntake.Table

namespace AddressIntake

namespace Header

open Text

/-- The marks that a header may end with to say that its field is required. -/
def requiredMarks : List (List Char) := [['*'], "(required)".toList]

/-- The characters before a final text, if the list ends with it. -/
def before? (final cs : List Char) : Option (List Char) :=
  if final.isSuffixOf cs then some (cs.take (cs.length - final.length)) else none

/-- A lower-case header without one final mark. -/
def dropMark (cs : List Char) : List Char :=
  match requiredMarks.findSome? (before? · (dropBlankEnd cs)) with
  | some rest => rest
  | none => cs

/-- The form in which headers, labels and keys are compared. Case, spacing and a final mark make no
difference to it. -/
def normalize (header : String) : String :=
  String.ofList (unwords (words (dropMark (lowercase (trim header)).toList)))

end Header

/-- What became of each column: the key of the field that it holds, or nothing if it is ignored. The
headers of ignored columns are listed apart, empty ones excepted. -/
structure Columns where
  keys : List (Option String)
  unrecognized : List String
  deriving DecidableEq, Repr

namespace Columns

/-- No columns. -/
def empty : Columns := ⟨[], []⟩

/-- Whether some column holds the field with a key. -/
def isMapped (columns : Columns) (key : String) : Bool :=
  columns.keys.contains (some key)

/-- How many columns hold a field. -/
def mappedCount (columns : Columns) : Nat :=
  columns.keys.countP (·.isSome)

/-- The key of the field that a normalized header names. -/
def keyNamed? (fields : List Field) (name : String) : Option String :=
  (fields.find? fun field => Header.normalize field.label == name || field.key == name).map (·.key)

/-- The columns with one more header. A field belongs to the first column that names it. -/
def push (fields : List Field) (columns : Columns) (header : String) : Columns :=
  let name := Header.normalize header
  if name.isEmpty then { columns with keys := columns.keys ++ [none] }
  else
    match (keyNamed? fields name).filter (!columns.isMapped ·) with
    | some key => { columns with keys := columns.keys ++ [some key] }
    | none =>
      { columns with
        keys := columns.keys ++ [none]
        unrecognized := columns.unrecognized ++ [Text.trim header] }

/-- The columns of a header row. -/
def ofHeaders (fields : List Field) (headers : List String) : Columns :=
  headers.foldl (push fields) empty

/-- The row of a list of cells. A missing cell reads as empty, and a cell without a column is
dropped. -/
def row (columns : Columns) (cells : List String) : Row :=
  .ofList (columns.keys.zipIdx.filterMap fun (key, i) =>
    key.map fun key => (key, (cells[i]?).getD ""))

/-- The rows of a list of data rows. -/
def rows (columns : Columns) (data : List (List String)) : List Row :=
  data.map columns.row

end Columns

end AddressIntake
