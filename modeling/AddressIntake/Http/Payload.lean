import AddressIntake.Import.Commit

namespace AddressIntake.Http

open Json

/-- Rows to be written, with a chunk size of their own if need be. -/
structure CommitRequest where
  rows : List Row
  chunkSize : Option Nat
  deriving DecidableEq

namespace CommitRequest

/-- The JSON object of a request. -/
def toJson (request : CommitRequest) : Json :=
  .obj [("rows", Json.ofList Row.toJson request.rows),
    ("chunkSize", Json.ofOption Json.ofNat request.chunkSize)]

/-- The request in a JSON record. -/
def decoder : Decoder CommitRequest :=
  Record.decoder <| CommitRequest.mk <$>
    Record.required "rows" (Decoder.list Row.decoder) <*>
    Record.withDefault "chunkSize" none
      (Decoder.nullable (Decoder.unsigned Number.maxWord64))

/-- The options for writing the rows where others are the rule. -/
def options (request : CommitRequest) (usual : CommitOptions) : CommitOptions :=
  match request.chunkSize with
  | some size => .withChunkSize size
  | none => usual

end CommitRequest

/-- What became of a request to write rows. -/
inductive CommitStatus where
  | imported
  | partially
  | rolledBack
  deriving DecidableEq, Repr

namespace CommitStatus

/-- The name of a status. -/
def tag : CommitStatus → String
  | imported => "imported"
  | partially => "partial"
  | rolledBack => "rolled_back"

/-- The status that a result shows. -/
def ofResult (result : ImportResult) : CommitStatus :=
  if !result.rolledBack then imported
  else if result.imported == 0 then rolledBack
  else partially

end CommitStatus

/-- The JSON object that tells the result of writing rows. -/
def commitResponse (result : ImportResult) : Json :=
  .obj [("status", .str (CommitStatus.ofResult result).tag), ("result", result.toJson)]

/-- The flags that are to replace those of a policy. -/
structure PolicyUpdate where
  required : PolicyFlags
  deriving DecidableEq

namespace PolicyUpdate

/-- The JSON object of an update. -/
def toJson (update : PolicyUpdate) : Json :=
  .obj [("required", update.required.toJson .bool)]

/-- The update in a JSON record. -/
def decoder : Decoder PolicyUpdate :=
  Record.decoder <| PolicyUpdate.mk <$>
    Record.required "required" (FieldMap.decoder Decoder.bool)

end PolicyUpdate

/-- Errors to be reported in a document. -/
structure ErrorReportRequest where
  errors : List RowError
  deriving DecidableEq

namespace ErrorReportRequest

/-- The JSON object of a request. -/
def toJson (request : ErrorReportRequest) : Json :=
  .obj [("errors", Json.ofList RowError.toJson request.errors)]

/-- The request in a JSON record. -/
def decoder : Decoder ErrorReportRequest :=
  Record.decoder <| ErrorReportRequest.mk <$>
    Record.required "errors" (Decoder.list RowError.decoder)

end ErrorReportRequest

/-- The preview of an upload. The rows in it are what a client sends back to have them written. -/
structure Preview where
  job : String
  status : String
  project : String
  kind : AddressKind
  result : ValidationResult
  deriving DecidableEq

namespace Preview

/-- The preview with a result, which is ready to be written if it is clean. -/
def ofResult (job : RecordId) (project : String) (kind : AddressKind)
    (result : ValidationResult) : Preview :=
  ⟨job.toText, if result.isClean then "ready" else "warning", project, kind, result⟩

/-- The JSON object of a preview. -/
def toJson (preview : Preview) : Json :=
  .obj [("jobId", .str preview.job), ("status", .str preview.status),
    ("projectId", .str preview.project), ("addressType", preview.kind.toJson),
    ("result", preview.result.toJson)]

/-- The preview in a JSON record. -/
def decoder : Decoder Preview :=
  Record.decoder <| Preview.mk <$>
    Record.required "jobId" Decoder.string <*>
    Record.required "status" Decoder.string <*>
    Record.required "projectId" Decoder.string <*>
    Record.required "addressType" AddressKind.decoder <*>
    Record.required "result" ValidationResult.decoder

end Preview

end AddressIntake.Http
