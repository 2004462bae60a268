import AddressIntake.Delimited.Reader
import AddressIntake.Delimited.Separator
import AddressIntake.FileKind
import AddressIntake.Workbook

namespace AddressIntake

/-- The content of an uploaded file: bytes, together with the charset that a detector names for
them, or a workbook. -/
inductive Document where
  | bytes (data : List UInt8) (charset : String)
  | workbook (sheets : List Worksheet)

namespace Document

/-- The number of bytes, as far as the content is given as bytes. -/
def size : Document → Nat
  | bytes data _ => data.length
  | workbook _ => 0

/-- The content, if it is given as bytes. -/
def bytes? : Document → Option (List UInt8)
  | bytes data _ => some data
  | workbook _ => none

/-- The content as text, if it is valid UTF-8. -/
def text? (document : Document) : Option (List Char) :=
  document.bytes?.bind Text.Utf8.decode?

/-- A document that holds a text. -/
def ofText (cs : List Char) : Document :=
  bytes (Text.Utf8.encode cs) "ascii"

end Document

/-- Why a file cannot be read as a table. -/
inductive ParseError where
  | unsupportedKind (name : String)
  | undecodable (reason : String)
  | spreadsheet (reason : String)
  | noWorksheet
  | insufficientRows (found : Nat)
  deriving DecidableEq, Repr

/-- The wording of an error. -/
def ParseError.message : ParseError → String
  | unsupportedKind name => s!"Unsupported file kind: {name}"
  | undecodable reason => s!"Cannot decode file content: {reason}"
  | spreadsheet reason => s!"Invalid spreadsheet: {reason}"
  | noWorksheet => "Spreadsheet has no worksheet"
  | insufficientRows found =>
    s!"File must contain a header row and at least one data row (found {found} row(s))"

/-- The kind that a text names. -/
def FileKind.parse (s : String) : Except ParseError FileKind :=
  match FileKind.parse? s with
  | some kind => .ok kind
  | none => .error (.unsupportedKind s)

/-- The kind that the extension of a path names. -/
def FileKind.ofPath (path : String) : Except ParseError FileKind :=
  match FileKind.extension? path with
  | some extension => FileKind.parse extension
  | none => .error (.unsupportedKind path)

/-- A header and data rows of trimmed texts. Blank rows between data rows are kept, so that the
position of a row tells its place in the file. Encoding and separator are those of delimited
text. -/
structure Table where
  kind : FileKind
  headers : List String
  rows : List (List String)
  encoding : Option String
  separator : Option Char
  deriving DecidableEq, Repr

namespace Table

/-- Whether all cells of a row are empty. -/
def isBlankRow (row : List String) : Bool :=
  row.all (·.isEmpty)

/-- The table of a list of rows. The header is the first row that is not blank; blank rows before it
and at the end are dropped. -/
def ofRows (kind : FileKind) (rows : List (List String)) (encoding : Option String)
    (separator : Option Char) : Except ParseError Table :=
  let found := rows.countP (!isBlankRow ·)
  if found < 2 then .error (.insufficientRows found)
  else
    match (rows.reverse.dropWhile isBlankRow).reverse.dropWhile isBlankRow with
    | headers :: data => .ok ⟨kind, headers, data, encoding, separator⟩
    | [] => .error (.insufficientRows found)

/-- The table of a delimited text. A text with a NUL character is taken for binary content. -/
def ofText (kind : FileKind) (encoding : String) (cs : List Char) : Except ParseError Table :=
  if cs.contains '\x00' then .error (.undecodable s!"binary content in a {kind.tag} file")
  else
    let sep := if kind == .tsv then '\t' else Delimited.detectSeparator cs
    ofRows kind (Delimited.read sep cs) (some encoding) (some sep)

/-- The rows of the first worksheet. -/
def worksheetRows : Document → Except ParseError (List (List String))
  | .bytes .. => .error (.spreadsheet "Cannot detect file format")
  | .workbook [] => .error .noWorksheet
  | .workbook (sheet :: _) =>
    match sheet.grid with
    | .ok rows => .ok rows
    | .error code =>
      .error (.spreadsheet s!"Xlsx error: Unsupported cell error value '{code}'")

/-- The table of a file of the declared kind. Workbooks start with a container whose bytes are no
text. -/
def parse (kind : FileKind) (document : Document) : Except ParseError Table :=
  if kind.isSpreadsheet then do
    let rows ← worksheetRows document
    ofRows kind rows none none
  else
    match document with
    | .workbook _ => .error (.undecodable s!"binary content in a {kind.tag} file")
    | .bytes data charset =>
      let encoding := Text.Encoding.ofDetected charset
      ofText kind encoding (Text.Encoding.decode encoding data)

/-- The table of a file on disk, whose kind its name tells. -/
def parseFile (path : String) (content : Except String Document) : Except ParseError Table := do
  let kind ← FileKind.ofPath path
  match content with
  | .ok document => parse kind document
  | .error reason => throw (.undecodable s!"cannot read '{path}': {reason}")

end Table

end AddressIntake
