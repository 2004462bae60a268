import AddressIntake.Json.Decoder
import AddressIntake.Text.Blank
import AddressIntake.Text.Case

namespace AddressIntake

/-- The kind of an uploaded file. -/
inductive FileKind where
  | csv
  | tsv
  | xlsx
  | xls
  | ods
  deriving DecidableEq, Repr

namespace FileKind

/-- All kinds. -/
def all : List FileKind := [csv, tsv, xlsx, xls, ods]

/-- The name of a kind. -/
def tag : FileKind → String
  | csv => "csv"
  | tsv => "tsv"
  | xlsx => "xlsx"
  | xls => "xls"
  | ods => "ods"

/-- Whether files of the kind are workbooks. -/
def isSpreadsheet : FileKind → Bool
  | xlsx | xls | ods => true
  | csv | tsv => false

/-- The extensions and media types of each kind. -/
def names : FileKind → List String
  | csv => ["csv", "txt", "text/csv", "text/plain"]
  | tsv => ["tsv", "tab", "text/tab-separated-values"]
  | xlsx => ["xlsx", "xlsm", "application/vnd.openxmlformats-officedocument.spreadsheetml.sheet"]
  | xls => ["xls", "application/vnd.ms-excel"]
  | ods => ["ods", "application/vnd.oasis.opendocument.spreadsheet"]

/-- The kind that a text names, an extension with or without its dot or a media type, in any
case. -/
def parse? (s : String) : Option FileKind :=
  let bare := String.ofList ((Text.trim s).toList.dropWhile (· == '.'))
  all.find? (·.names.contains (Text.lowercase bare))

/-- The parts of a path, without empty parts and without dots that stand for the folder itself. -/
def pathParts (path : String) : List (List Char) :=
  ((path.toList.splitOnP (· == '/')).filter fun part => !part.isEmpty && part != ['.'])

/-- The extension of a file name: what follows its last dot, unless the name only starts with it. -/
def extensionOf (name : List Char) : Option String :=
  if name == ['.', '.'] then none
  else
    let reversed := name.reverse.takeWhile (· != '.')
    if name.length ≤ reversed.length + 1 then none else some (String.ofList reversed.reverse)

/-- The extension of the last part of a path. -/
def extension? (path : String) : Option String :=
  (pathParts path).getLast?.bind extensionOf

/-- The JSON text of a kind. -/
def toJson (kind : FileKind) : Json :=
  .str kind.tag

/-- The kind in a JSON tag. -/
def decoder : Json.Decoder FileKind :=
  Json.Decoder.choice fun tag => all.find? (·.tag == tag)

end FileKind

end AddressIntake
