import AddressIntake.Columns
import AddressIntake.Import.Pipeline
import AddressIntake.Validation

namespace AddressIntake

open Pipeline

/-- The names of the ship-to addresses of a project. If they cannot be read, no name is known. -/
def shipToLookup (project : String) : Pipeline ShipToLookup := do
  match ← ask (.select project .shipTo) with
  | .ok addresses => return .ofAddresses addresses
  | .error e =>
    log (.warning (s!"Ship-to addresses of project {project} unavailable, " ++
      s!"no reference will resolve: {e.message}"))
    return .empty

/-- The flags of the policy of a project and kind. Without a policy no flag is set. -/
def requiredFlags (project : String) (kind : AddressKind) :
    Pipeline (Except StoreError PolicyFlags) := do
  match ← ask (.policy project kind) with
  | .ok (some policy) => return .ok policy.required
  | .ok none => return .ok .empty
  | .error e => return .error e

/-- The lookup that rows of a kind need, if they need one. -/
def neededLookup (project : String) (kind : AddressKind) : Pipeline (Option ShipToLookup) := do
  if kind == .installAt then
    let lookup ← shipToLookup project
    return some lookup
  else return none

/-- The errors of rows under the policy and the ship-to addresses that are stored now. -/
def checkStored (project : String) (kind : AddressKind) (rows : List Row) :
    Pipeline (Except StoreError (List RowError)) := do
  match ← requiredFlags project kind with
  | .error e => return .error e
  | .ok flags =>
    let lookup ← neededLookup project kind
    let required := Policy.requiredKeys (Schema.fields kind) flags
    return .ok (Validation.checkRows kind required lookup rows)

/-- What is said about the result of a check. -/
def checkedLines (result : ValidationResult) : List LogLine :=
  if result.isClean then [.success s!"All {result.totalRows} rows valid!"]
  else
    [.success s!"Valid: {result.validRows}",
      .error s!"Invalid: {result.errorRows} ({result.errors.length} errors)"]

/-- Checks rows that were read before. -/
def previewRows (project : String) (kind : AddressKind) (rows : List Row) :
    Pipeline (Except ImportError ValidationResult) := do
  log (.info s!"✔️  Validating {Row.filledCount rows} {kind.tag} rows for project {project}...")
  match ← checkStored project kind rows with
  | .error e => return .error (.store e)
  | .ok errors =>
    let result := ValidationResult.summarize rows errors
    logAll (checkedLines result)
    return .ok result

/-- What is said about a table and its columns. -/
def tableLines (table : Table) (columns : Columns) : List LogLine :=
  (match table.encoding with
    | some encoding => [LogLine.success s!"Detected encoding: {encoding}"]
    | none => []) ++
  [.success s!"Read {table.rows.length} data rows",
    .info s!"📋 Mapped {columns.mappedCount} of {table.headers.length} columns"] ++
  columns.unrecognized.map (fun header => (LogLine.info s!"ignored column: {header}").indented) ++
  if columns.unrecognized.isEmpty then []
  else [.warning s!"{columns.unrecognized.length} unrecognized column(s) ignored"]

/-- Where the rows of a table came from. -/
def tableSource (table : Table) (columns : Columns) : Source where
  fileKind := table.kind.tag
  encoding := table.encoding
  separator := table.separator
  headers := table.headers
  unrecognized := columns.unrecognized

/-- Reads and checks an uploaded file. -/
def previewUpload (document : Document) (fileKind : FileKind) (project : String)
    (kind : AddressKind) : Pipeline (Except ImportError ValidationResult) := do
  log (.info s!"📖 Reading {fileKind.tag} file ({document.size} bytes)...")
  match Table.parse fileKind document with
  | .error e => return .error (.parse e)
  | .ok table =>
    let columns := Columns.ofHeaders (Schema.fields kind) table.headers
    logAll (tableLines table columns)
    match ← previewRows project kind (columns.rows table.rows) with
    | .error e => return .error e
    | .ok result => return .ok { result with source := tableSource table columns }

end AddressIntake
