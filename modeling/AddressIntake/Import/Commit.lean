import AddressIntake.Import.Preview
import AddressIntake.Settings

namespace AddressIntake

/-- What became of a chunk. -/
inductive ChunkState where
  | pending
  | committed
  | rolledBack
  deriving DecidableEq, Repr

namespace ChunkState

/-- All states. -/
def all : List ChunkState := [pending, committed, rolledBack]

/-- The name of a state. -/
def tag : ChunkState → String
  | pending => "pending"
  | committed => "committed"
  | rolledBack => "rolled_back"

/-- The state in a JSON tag. -/
def decoder : Json.Decoder ChunkState :=
  Json.Decoder.choice fun tag => all.find? (·.tag == tag)

end ChunkState

/-- A chunk by its index and the numbers of its first and last row. -/
structure ChunkReport where
  index : Nat
  firstRow : Nat
  lastRow : Nat
  state : ChunkState
  deriving DecidableEq, Repr

namespace ChunkReport

open Json

/-- How many rows the chunk has, blank ones included. -/
def size (report : ChunkReport) : Nat :=
  report.lastRow + 1 - report.firstRow

/-- The JSON object of a report. -/
def toJson (report : ChunkReport) : Json :=
  .obj [("index", .ofNat report.index), ("firstRow", .ofNat report.firstRow),
    ("lastRow", .ofNat report.lastRow), ("state", .str report.state.tag)]

/-- The report in a JSON record. -/
def decoder : Decoder ChunkReport :=
  Record.decoder <| ChunkReport.mk <$>
    Record.required "index" (Decoder.unsigned Number.maxWord64) <*>
    Record.required "firstRow" (Decoder.unsigned Number.maxWord64) <*>
    Record.required "lastRow" (Decoder.unsigned Number.maxWord64) <*>
    Record.required "state" ChunkState.decoder

end ChunkReport

/-- The result of writing rows. -/
structure ImportResult where
  totalRows : Nat
  imported : Nat
  failed : Nat
  errors : List RowError
  rolledBack : Bool
  chunks : List ChunkReport
  deriving DecidableEq, Repr

namespace ImportResult

open Json

/-- The result before the first chunk. -/
def start (totalRows : Nat) : ImportResult := ⟨totalRows, 0, 0, [], false, []⟩

/-- The result for rows that do not pass the check. -/
def refused (totalRows : Nat) (errors : List RowError) : ImportResult :=
  ⟨totalRows, 0, totalRows, errors, true, []⟩

/-- The JSON object of a result. -/
def toJson (result : ImportResult) : Json :=
  .obj [("totalRows", .ofNat result.totalRows), ("imported", .ofNat result.imported),
    ("failed", .ofNat result.failed), ("errors", Json.ofList RowError.toJson result.errors),
    ("rolledBack", .bool result.rolledBack),
    ("chunks", Json.ofList ChunkReport.toJson result.chunks)]

/-- The result in a JSON record. -/
def decoder : Decoder ImportResult :=
  Record.decoder <| ImportResult.mk <$>
    Record.required "totalRows" (Decoder.unsigned Number.maxWord64) <*>
    Record.required "imported" (Decoder.unsigned Number.maxWord64) <*>
    Record.required "failed" (Decoder.unsigned Number.maxWord64) <*>
    Record.required "errors" (Decoder.list RowError.decoder) <*>
    Record.required "rolledBack" Decoder.bool <*>
    Record.withDefault "chunks" [] (Decoder.list ChunkReport.decoder)

end ImportResult

/-- How rows are written. -/
structure CommitOptions where
  chunkSize : Nat
  deriving DecidableEq, Repr

namespace CommitOptions

open Json

/-- The options if nothing else is said. -/
def default : CommitOptions := ⟨Settings.defaultChunkSize⟩

/-- The options with another chunk size, at least one. -/
def withChunkSize (size : Nat) : CommitOptions := ⟨max size 1⟩

/-- The JSON object of options. -/
def toJson (options : CommitOptions) : Json :=
  .obj [("chunkSize", .ofNat options.chunkSize)]

/-- The options in a JSON record. -/
def decoder : Decoder CommitOptions :=
  Record.decoder <| CommitOptions.mk <$>
    Record.required "chunkSize" (Decoder.unsigned Number.maxWord64)

end CommitOptions

/-- The options that settings give. -/
def Settings.commitOptions (settings : Settings) : CommitOptions :=
  .withChunkSize settings.chunkSize

/-- A list cut into pieces of the given size, or of size one if it is zero. The last piece may be
shorter. -/
def chunksOf {α : Type} (size : Nat) : List α → List (List α)
  | [] => []
  | a :: rest => (a :: rest.take (size - 1)) :: chunksOf size (rest.drop (size - 1))
termination_by l => l.length
decreasing_by
  simp only [List.length_drop, List.length_cons]
  omega

open Pipeline

/-- Rows to be written: their project and kind, the size of the chunks, and the names that
install-at rows may refer to. -/
structure CommitJob where
  project : String
  kind : AddressKind
  chunkSize : Nat
  lookup : Option ShipToLookup

namespace CommitJob

/-- The address of a row, or the reason to give up its chunk. -/
def draft (job : CommitJob) (number : Nat) (row : Row) : Draft :=
  if job.kind == .installAt then
    let name := (row.value? Schema.shipToKey).getD ""
    match job.lookup.bind (·.resolve? name) with
    | some id => .ok ⟨job.project, job.kind, .ofRow row, some id⟩
    | none => .error (.unresolved (Validation.unresolved number name))
  else .ok ⟨job.project, job.kind, .ofRow row, none⟩

/-- The drafts of a chunk that starts at an offset. Blank rows are passed over but keep their
place. -/
def drafts (job : CommitJob) (offset : Nat) (chunk : List Row) : List Draft :=
  chunk.zipIdx.filterMap fun (row, i) =>
    if row.isBlank then none else some (job.draft (Row.number (offset + i)) row)

/-- The error of a chunk that was given up. A reason that lies with the store is told at the first
row of the chunk. -/
def chunkError (firstRow lastRow : Nat) : Abort → RowError
  | .unresolved error => error
  | .store error =>
    ⟨firstRow, "Transaction", s!"Rows {firstRow}-{lastRow} rolled back: {error.message}"⟩

/-- Writes chunks one after the other, from the one with the given index on. Each is a transaction
of its own, and one that fails does not stop the next ones. -/
def commitChunks (job : CommitJob) (index : Nat) (result : ImportResult) :
    List (List Row) → Pipeline ImportResult
  | [] => pure result
  | chunk :: rest => do
    let offset := index * job.chunkSize
    let firstRow := Row.number offset
    let lastRow := Row.number (offset + chunk.length - 1)
    match ← ask (.transact (job.drafts offset chunk)) with
    | .ok created =>
      log (LogLine.success
        s!"chunk {index + 1} (rows {firstRow}-{lastRow}) committed").indented
      job.commitChunks (index + 1)
        { result with
          imported := result.imported + created.length
          chunks := result.chunks ++ [⟨index, firstRow, lastRow, .committed⟩] }
        rest
    | .error abort =>
      let error := chunkError firstRow lastRow abort
      log (.error s!"Chunk {index + 1} rolled back: {error.toText}")
      job.commitChunks (index + 1)
        { result with
          failed := result.failed + Row.filledCount chunk
          rolledBack := true
          errors := result.errors ++ [error]
          chunks := result.chunks ++ [⟨index, firstRow, lastRow, .rolledBack⟩] }
        rest

end CommitJob

/-- What is said at the end. -/
def committedLine (result : ImportResult) : LogLine :=
  if result.rolledBack then
    .error s!"Imported {result.imported} of {result.totalRows}, {result.failed} rolled back"
  else .success s!"Imported {result.imported} rows"

/-- Checks rows and writes them. Only a policy that cannot be read ends this without a result. -/
def commitRows (project : String) (kind : AddressKind) (rows : List Row)
    (options : CommitOptions) : Pipeline (Except ImportError ImportResult) := do
  let totalRows := Row.filledCount rows
  log (.info s!"💾 Committing {totalRows} {kind.tag} rows for project {project}...")
  match ← checkStored project kind rows with
  | .error e => return .error (.store e)
  | .ok (first :: others) =>
    let errors := first :: others
    log (.error s!"Revalidation failed with {errors.length} error(s), nothing was written")
    return .ok (.refused totalRows errors)
  | .ok [] =>
    let lookup ← neededLookup project kind
    let job : CommitJob := ⟨project, kind, max options.chunkSize 1, lookup⟩
    let result ← job.commitChunks 0 (.start totalRows) (chunksOf job.chunkSize rows)
    log (committedLine result)
    return .ok result

end AddressIntake
