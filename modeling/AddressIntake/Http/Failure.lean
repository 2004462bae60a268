import AddressIntake.Http.Message
import AddressIntake.Import.Pipeline

namespace AddressIntake.Http

/-- Why a request has no result. -/
inductive Failure where
  | intake (error : ImportError)
  | badRequest (reason : String)
  | notFound (what : String)
  | internal (reason : String)
  deriving DecidableEq, Repr

namespace Failure

/-- The wording of an error. -/
def message : Failure → String
  | intake error => s!"Import error: {error.message}"
  | badRequest reason => s!"Invalid request: {reason}"
  | notFound what => s!"Not found: {what}"
  | internal reason => s!"Internal error: {reason}"

/-- The status that an error is told with. What is wrong with the file is told apart from what is
wrong with the request, and both from what is wrong with the server. -/
def status : Failure → Nat
  | badRequest _ => 400
  | notFound _ => 404
  | intake (.parse _) => 422
  | intake (.unknownKind _) => 400
  | intake _ => 500
  | internal _ => 500

/-- The response that tells an error of a job. -/
def response (job : RecordId) (failure : Failure) : Response :=
  .json failure.status (.obj [("jobId", job.toJson), ("status", .str "error"),
    ("error", .str failure.message)])

/-- An error of the store. -/
def ofStore (error : StoreError) : Failure :=
  .intake (.store error)

end Failure

end AddressIntake.Http
