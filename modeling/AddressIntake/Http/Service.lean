import AddressIntake.Http.Payload
import AddressIntake.Http.Route
import AddressIntake.Http.Upload

namespace AddressIntake.Http

open Pipeline

/-- A script that ends with a result or a failure. -/
abbrev Handler := ExceptT Failure Pipeline

namespace Handler

/-- The script that ends with a result that is known already. -/
def ofExcept {α ε : Type} (failure : ε → Failure) : Except ε α → Handler α
  | .ok value => pure value
  | .error e => throw (failure e)

/-- The script of an import whose errors are failures. -/
def ofPipeline {α ε : Type} (failure : ε → Failure) (script : Pipeline (Except ε α)) :
    Handler α :=
  ExceptT.mk do
    match ← script with
    | .ok value => return .ok value
    | .error e => return .error (failure e)

/-- The kind of address that a target names. -/
def kindOf (kind : String) : Handler AddressKind :=
  ofExcept .intake (AddressKind.parse kind)

/-- The addresses of one kind in a project. -/
def select (project : String) (kind : AddressKind) : Handler (List Address) :=
  ofPipeline .ofStore (ask (.select project kind))

/-- The response with a sheet to be saved under a name. -/
def download (sheet : Sheet) (stem : String) : Handler Response := do
  let text ← ofExcept (fun e => .intake (.render e)) sheet.render
  return .download Sheet.contentType (stem ++ "." ++ Sheet.fileExtension) text

end Handler

/-- A service: the options of commits that name none, and a way to tell what the bytes of a file
are. -/
structure Service where
  options : CommitOptions
  recognize : List UInt8 → Document

namespace Service

open Handler

/-- The name under which the service is known. -/
def serviceName : String := "addrload"

/-- The version of the service. -/
def serviceVersion : String := "0.1.0"

/-- The response that shows that the service works. -/
def health : Response :=
  .json 200 (.obj [("status", .str "ok"), ("service", .str serviceName),
    ("version", .str serviceVersion),
    ("addressTypes", Json.ofList AddressKind.toJson AddressKind.all)])

/-- The response whose content is written by and by as messages are published. -/
def logs : Response :=
  .bare 200 [("content-type", "text/event-stream"), ("cache-control", "no-cache")]

/-- Previews the file of an upload. -/
def validate (service : Service) (stamp : Stamp) (project kind : String) (parts : List Part)
    (outcome : Multipart.Outcome) : Handler Response := do
  let kind ← kindOf kind
  let upload ← ofExcept id (Upload.ofParts parts outcome)
  let (content, fileKind) ← ofExcept id upload.file
  log (.info (s!"📄 NEW UPLOAD: {fileKind.tag} {kind.tag} for project {project} " ++
    s!"({content.length} bytes)"))
  let result ← ofPipeline .intake
    (previewUpload (service.recognize content) fileKind project kind)
  return .json 200 (Preview.ofResult stamp.id project kind result).toJson

/-- Writes rows. -/
def commit (service : Service) (project kind : String) (request : CommitRequest) :
    Handler Response := do
  let kind ← kindOf kind
  let result ← ofPipeline .intake
    (commitRows project kind request.rows (request.options service.options))
  return .json 200 (commitResponse result)

/-- A template for uploads. -/
def template (project kind : String) : Handler Response := do
  let kind ← kindOf kind
  let flags ← ofPipeline .ofStore (requiredFlags project kind)
  download (.template kind flags) s!"{kind.tag}_template"

/-- The stored addresses as a document. -/
def exportSheet (project kind : String) : Handler Response := do
  let kind ← kindOf kind
  let addresses ← select project kind
  let names ← if kind == .installAt then Sheet.shipToNames <$> select project .shipTo else pure []
  download (.ofAddresses kind addresses names) s!"{project}_{kind.tag}"

/-- The flags of a policy as they are now. -/
def showPolicy (stamp : Stamp) (project kind : String) : Handler Response := do
  let kind ← kindOf kind
  let flags ← ofPipeline .ofStore (requiredFlags project kind)
  return .json 200 (Policy.mk project kind flags stamp.createdAt).toJson

/-- Replaces the flags of a policy. -/
def updatePolicy (stamp : Stamp) (project kind : String) (update : PolicyUpdate) :
    Handler Response := do
  let kind ← kindOf kind
  let policy : Policy := ⟨project, kind, update.required, stamp.createdAt⟩
  ofPipeline .ofStore (ask (.savePolicy policy))
  log (.info s!"Required-field policy updated for {project} {kind.tag}")
  return .json 200 policy.toJson

/-- One stored address. -/
def showAddress (id : String) : Handler Response := do
  match RecordId.parseTrimmed? id with
  | none => throw (.badRequest s!"Invalid address id '{id}'")
  | some record =>
    match ← ofPipeline .ofStore (ask (.find record)) with
    | none => throw (.notFound s!"address {record.toText}")
    | some address => return .json 200 address.toJson

/-- A document that lists errors. -/
def errorReport (request : ErrorReportRequest) : Handler Response :=
  download (.ofErrors request.errors) "import_errors"

/-- The variable part of a target, or the response that turns the request down. -/
def variablePart (s : String) : Except Response String :=
  match percentDecode? s with
  | some decoded => .ok decoded
  | none => .error (.rejection 400 "Invalid UTF-8 in the target")

/-- The greatest number of bytes in the content of a request. -/
def maxContentLength : Nat := 2097152

/-- The JSON content of a request, or the response that turns it down. -/
def jsonContent {α : Type} (read : Json.Decoder α) (request : Request) : Except Response α :=
  if !(request.mediaType?.map (·.isJson)).getD false then .error (.rejection 415 "Expected JSON")
  else if maxContentLength < request.body.length then .error (.rejection 413 "Content too long")
  else
    match Json.decode read ((Text.Utf8.decode? request.body).getD []) with
    | .error .malformed => .error (.rejection 400 "Malformed JSON")
    | .error .mismatch => .error (.rejection 422 "Unexpected JSON")
    | .ok value => .ok value

/-- The parts of the form in a request, or the response that turns it down. Content that is too long
has no parts. -/
def formContent (request : Request) : Except Response (List Part × Multipart.Outcome) :=
  match request.mediaType?.bind (·.boundary?) with
  | none => .error (.rejection 400 "Expected a form in parts")
  | some boundary =>
    if maxContentLength < request.body.length then .ok ([], .broken)
    else .ok (Multipart.parts boundary request.body)

/-- The response to the outcome of a script. -/
def finish (job : RecordId) : Except Failure Response → Response
  | .ok response => response
  | .error failure => failure.response job

/-- The script for a request about the addresses of one kind in a project. -/
def answerAddresses (service : Service) (stamp : Stamp) (request : Request)
    (project kind : String) : TargetAction → Except Response (Handler Response)
  | .validate => do
    let (parts, outcome) ← formContent request
    return service.validate stamp project kind parts outcome
  | .commit => do
    let content ← jsonContent CommitRequest.decoder request
    return service.commit project kind content
  | .template => return template project kind
  | .exportSheet => return exportSheet project kind
  | .policy =>
    if request.method == "PUT" then do
      let update ← jsonContent PolicyUpdate.decoder request
      return updatePolicy stamp project kind update
    else return showPolicy stamp project kind

/-- The script for a request that asks for a resource by one of its methods, or the response that
turns the request down. What is wrong with its form is found before anything else happens. -/
def answerRoute (service : Service) (stamp : Stamp) (request : Request) :
    Route → Except Response (Handler Response)
  | .health => return pure health
  | .logs => return pure logs
  | .errorReport => do
    let content ← jsonContent ErrorReportRequest.decoder request
    return errorReport content
  | .address id => do
    let id ← variablePart id
    return showAddress id
  | .addresses project kind action => do
    let project ← variablePart project
    let kind ← variablePart kind
    service.answerAddresses stamp request project kind action

/-- The headers that let pages of any origin read a response. -/
def originHeaders : Headers :=
  [("access-control-allow-origin", "*"),
    ("access-control-expose-headers", "content-type,content-disposition")]

/-- The response to a page that asks which requests it may send. -/
def preflight (route : Option Route) : Response :=
  .bare 200 ([("access-control-allow-origin", "*"),
    ("access-control-allow-methods", "GET,POST,PUT,OPTIONS"),
    ("access-control-allow-headers", "content-type,accept")] ++
    (route.map fun r => ("allow", String.intercalate "," r.methods)).toList)

/-- A response as it is sent: readable from any origin, and without content if only its headers are
asked for. -/
def sent (request : Request) (response : Response) : Response :=
  { response with
    headers := originHeaders ++ response.headers
    body := if request.method == "HEAD" then [] else response.body }

/-- The script that answers a request. The stamp is that of the job which the request starts. -/
def answer (service : Service) (stamp : Stamp) (request : Request) : Pipeline Response := do
  let route := Route.parse? request.target
  if request.method == "OPTIONS" then return preflight route
  else
    match route with
    | none => return sent request (.bare 404 [])
    | some route =>
      if route.methods.contains request.method then
        match service.answerRoute stamp request route with
        | .error response => return sent request response
        | .ok script =>
          let outcome ← script.run
          return sent request (finish stamp.id outcome)
      else return sent request (.bare 405 [("allow", String.intercalate "," route.methods)])

end Service

end AddressIntake.Http
