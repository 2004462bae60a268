import AddressIntake.Cli.Command
import AddressIntake.Import.Commit
import AddressIntake.Store.OnDisk
import AddressIntake.Variables

namespace AddressIntake.Cli

/-- A machine with files, a clock, two outputs for text, and a network for the server. -/
structure Machine (m : Type → Type) where
  files : Files m
  stamp : m Stamp
  print : String → m Unit
  report : String → m Unit
  serve : Settings → m (Except String Unit)

/-- How a command ends when it does not end well: with a reason that is still to be told, or after
everything was said. -/
inductive Ending where
  | failed (reason : String)
  | told
  deriving DecidableEq, Repr

/-- A command on a machine. -/
abbrev Job (m : Type → Type) := ExceptT Ending m

namespace Job

variable {m : Type → Type} [Monad m]

/-- Gives up with the wording of an error. -/
def ofExcept {α ε : Type} (wording : ε → String) : Except ε α → Job m α
  | .ok value => pure value
  | .error e => throw (.failed (wording e))

/-- Says a line on the output for messages. -/
def say (machine : Machine m) (line : String) : Job m Unit :=
  machine.report (line ++ "\n")

/-- Says lines one after the other. -/
def sayAll (machine : Machine m) : List String → Job m Unit
  | [] => pure ()
  | line :: rest => do
    say machine line
    sayAll machine rest

/-- The store in a folder. -/
def store (machine : Machine m) (folder : String) : Store m :=
  StoreFolder.answer machine.files machine.stamp folder

/-- Performs a script over the store in a folder. Its messages are said. -/
def perform {α ε : Type} (machine : Machine m) (folder : String) (wording : ε → String)
    (script : Pipeline (Except ε α)) : Job m α := do
  let effects := Pipeline.answer (store machine folder)
    fun line => machine.report (line.toText ++ "\n")
  ofExcept wording (← (Script.perform effects script : m _))

/-- Writes a file. -/
def writeFile (machine : Machine m) (path : String) (content : List Char) : Job m Unit := do
  ofExcept FileError.message (← (machine.files (.write path (.ofText content)) : m _))

/-- The project and the kind of address of a target. -/
def resolve (target : Target) : Job m (String × AddressKind) := do
  let kind ← ofExcept ImportError.message (AddressKind.parse target.kind)
  return (target.project, kind)

/-- Writes an output, to the console if there is no path. -/
def writeOutput (machine : Machine m) (content : List Char) : Option String → Job m Unit
  | some path => do
    writeFile machine path content
    say machine s!"💾 Output written to: {path}"
  | none => machine.print (String.ofList content ++ "\n")

/-- Writes the document that lists errors, if there is a path for it. -/
def writeErrors (machine : Machine m) (errors : List RowError) : Option String → Job m Unit
  | some path => do
    let text ← ofExcept RenderError.message (Sheet.ofErrors errors).render
    writeFile machine path text
    say machine s!"💾 Error report written to: {path}"
  | none => pure ()

/-- How a separator is shown. -/
def separatorText (separator : Char) : String :=
  if separator == '\t' then "\\t" else String.ofList [separator]

/-- What is said about a checked file. -/
def previewLines (result : ValidationResult) : List String :=
  (result.source.encoding.map fun encoding => s!"   Encoding: {encoding}").toList ++
  (result.source.separator.map fun c => s!"   Delimiter: '{separatorText c}'").toList ++
  [s!"   Rows: {result.totalRows}",
    "   Columns: " ++ String.intercalate ", " result.source.headers,
    "\n✔️  Validation:"] ++
  if result.isClean then [s!"   ✅ All {result.validRows} rows valid!"]
  else
    [s!"   ✅ Valid: {result.validRows}", s!"   ❌ Invalid: {result.errorRows}"] ++
      (result.errors.take 10).map fun e => s!"     - {e.toText}"

/-- Reads and checks a file. -/
def preview (machine : Machine m) (folder input : String) (target : Target) :
    Job m ValidationResult := do
  let (project, kind) ← resolve target
  say machine s!"📄 Processing: {input}"
  let fileKind ← ofExcept ParseError.message (FileKind.ofPath input)
  let content ← ofExcept FileError.message (← (machine.files (.read input) : m _))
  let result ← perform machine folder ImportError.message
    (previewUpload content fileKind project kind)
  sayAll machine (previewLines result)
  return result

/-- Says what became of the rows and writes down the errors. -/
def finishCommit (machine : Machine m) (result : ImportResult) (errors : Option String) :
    Job m Unit := do
  say machine s!"\n📊 Results: {result.imported} imported, {result.failed} failed"
  sayAll machine ((result.errors.take 5).map fun e => s!"   - {e.toText}")
  writeErrors machine result.errors errors
  if result.rolledBack then throw .told
  say machine "\n✨ Done!"

/-- Checks a file and writes its rows as JSON. -/
def validate (machine : Machine m) (folder input : String) (target : Target)
    (output errors : Option String) : Job m Unit := do
  let result ← preview machine folder input target
  writeErrors machine result.errors errors
  writeOutput machine (Json.indented (Json.ofList Row.toJson result.rows)) output
  if !result.isClean then throw .told

/-- The rows in the text of a file. -/
def parseRows (cs : List Char) : Except String (List Row) :=
  match Json.decode (Json.Decoder.list Row.decoder) cs with
  | .ok rows => .ok rows
  | .error .malformed => .error "malformed JSON"
  | .error .mismatch => .error "expected a list of rows"

/-- Stores the rows in a file. -/
def commit (machine : Machine m) (folder input : String) (target : Target)
    (options : CommitOptions) (errors : Option String) : Job m Unit := do
  let (project, kind) ← resolve target
  let text ← ofExcept id (← (machine.files.readText input : m _))
  let rows ← ofExcept id (parseRows text)
  say machine s!"💾 Committing {rows.length} rows from: {input}"
  let result ← perform machine folder ImportError.message (commitRows project kind rows options)
  finishCommit machine result errors

/-- Checks a file and stores its rows if all of them are valid. -/
def importFile (machine : Machine m) (folder input : String) (target : Target)
    (options : CommitOptions) (errors : Option String) : Job m Unit := do
  let checked ← preview machine folder input target
  if !checked.isClean then
    writeErrors machine checked.errors errors
    throw (.failed s!"{checked.errorRows} invalid row(s), nothing imported")
  let (project, kind) ← resolve target
  let result ← perform machine folder ImportError.message
    (commitRows project kind checked.rows options)
  finishCommit machine result errors

/-- Writes a template for uploads. -/
def template (machine : Machine m) (folder : String) (target : Target)
    (output : Option String) : Job m Unit := do
  let (project, kind) ← resolve target
  let flags ← perform machine folder StoreError.message (requiredFlags project kind)
  let text ← ofExcept RenderError.message (Sheet.template kind flags).render
  writeOutput machine text output

/-- The addresses of one kind in a project. -/
def select (machine : Machine m) (folder project : String) (kind : AddressKind) :
    Job m (List Address) :=
  perform machine folder StoreError.message (Pipeline.ask (.select project kind))

/-- Writes the stored addresses as a document. -/
def exportSheet (machine : Machine m) (folder : String) (target : Target)
    (output : Option String) : Job m Unit := do
  let (project, kind) ← resolve target
  let addresses ← select machine folder project kind
  let names ←
    if kind == .installAt then Sheet.shipToNames <$> select machine folder project .shipTo
    else pure []
  say machine s!"📦 Exporting {addresses.length} {kind.tag} addresses"
  let text ← ofExcept RenderError.message (Sheet.ofAddresses kind addresses names).render
  writeOutput machine text output

/-- A key with the reason why its field is required, if it is. -/
def policyLine (flags : PolicyFlags) (field : Field) : String :=
  let key := field.key ++ String.ofList (List.replicate (16 - field.key.length) ' ')
  let reason :=
    if field.alwaysRequired then "always"
    else if (flags.get? field.key).getD false then "policy"
    else "-"
  s!"  {key} {reason}"

/-- Prints which fields are required. -/
def showPolicy (machine : Machine m) (folder : String) (target : Target) : Job m Unit := do
  let (project, kind) ← resolve target
  let flags ← perform machine folder StoreError.message (requiredFlags project kind)
  let lines := s!"📋 Required fields for {project} {kind.tag}:" ::
    (Schema.fields kind).map (policyLine flags)
  machine.print (String.join (lines.map (· ++ "\n")))

/-- The flags that require exactly the given keys, those of always required fields included where
they are given. -/
def chosenFlags (kind : AddressKind) (keys : List String) : Except String PolicyFlags :=
  let optional := (Schema.fields kind).filter (!·.alwaysRequired)
  let none : PolicyFlags := .ofList (optional.map fun field => (field.key, false))
  keys.foldlM (fun flags key =>
    if (Schema.field? kind key).isSome then .ok (flags.insert key true)
    else .error s!"Unknown field '{key}' for {kind.tag}") none

/-- Replaces the flags of a policy. -/
def setPolicy (machine : Machine m) (folder : String) (target : Target) (keys : List String) :
    Job m Unit := do
  let (project, kind) ← resolve target
  let flags ← ofExcept id (chosenFlags kind keys)
  let stamp ← machine.stamp
  perform machine folder StoreError.message
    (Pipeline.ask (.savePolicy ⟨project, kind, flags, stamp.createdAt⟩))
  say machine
    s!"✅ Policy saved for {project} {kind.tag} ({keys.length} required by policy)"

/-- The options for writing rows, the size of chunks being the one named on the command line if
there is one. -/
def commitOptions (settings : Settings) (chunkSize : Option Nat) : CommitOptions :=
  match chunkSize with
  | some size => .withChunkSize size
  | none => settings.commitOptions

/-- Carries out a command over the store in a folder that is there. -/
def runCommand (machine : Machine m) (settings : Settings) : Command → Job m Unit
  | .validate input target output errors =>
    validate machine settings.dataDir input target output errors
  | .commit input target chunkSize errors =>
    commit machine settings.dataDir input target (commitOptions settings chunkSize) errors
  | .importFile input target chunkSize errors =>
    importFile machine settings.dataDir input target (commitOptions settings chunkSize) errors
  | .template target output => template machine settings.dataDir target output
  | .exportSheet target output => exportSheet machine settings.dataDir target output
  | .showPolicy target => showPolicy machine settings.dataDir target
  | .setPolicy target keys => setPolicy machine settings.dataDir target keys
  | .serve port => do
    ofExcept id (← (machine.serve { settings with port := port.getD settings.port } : m _))

/-- The settings of an invocation, from the surroundings and the file of variables. -/
def settings (machine : Machine m) (outside : String → Option String) (dataDir : Option String) :
    Job m Settings := do
  let file : Except FileError Document ← (machine.files (.read ".env") : m _)
  let set := match file with
    | .ok document => Variables.ofBytes outside (document.bytes?.getD [])
    | .error _ => []
  let found ← ofExcept SettingsError.message
    (Settings.ofLookup (Variables.find? outside set))
  return { found with dataDir := dataDir.getD found.dataDir }

/-- Carries out an invocation. -/
def runInvocation (machine : Machine m) (outside : String → Option String)
    (invocation : Invocation) : Job m Unit := do
  let settings ← settings machine outside invocation.dataDir
  ofExcept StoreError.message (← (StoreFolder.make machine.files settings.dataDir : m _))
  runCommand machine settings invocation.command

end Job

/-- What is printed for a user who asks for help. -/
def helpText : String :=
  "Usage: addrload [--data-dir <DIR>] " ++
    "<validate|commit|import|template|export|policy|serve> [OPTIONS]\n"

/-- Runs the program with the given arguments and returns its exit status. -/
def run {m : Type → Type} [Monad m] (machine : Machine m) (outside : String → Option String)
    (arguments : List String) : m Nat := do
  match Invocation.parse arguments with
  | .error .help =>
    machine.print helpText
    return 0
  | .error .invalid =>
    machine.report helpText
    return 2
  | .ok invocation =>
    match ← (Job.runInvocation machine outside invocation).run with
    | .ok () => return 0
    | .error .told => return 1
    | .error (.failed reason) =>
      machine.report s!"❌ Error: {reason}\n"
      return 1

end AddressIntake.Cli
