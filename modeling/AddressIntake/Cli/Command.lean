import AddressIntake.Cli.Options
import AddressIntake.Number.Unsigned

namespace AddressIntake.Cli

/-- The project and the kind of address that a command is about, as they were typed. -/
structure Target where
  project : String
  kind : String
  deriving DecidableEq, Repr

/-- A command with what was said about it. -/
inductive Command where
  | validate (input : String) (target : Target) (output errors : Option String)
  | commit (input : String) (target : Target) (chunkSize : Option Nat) (errors : Option String)
  | importFile (input : String) (target : Target) (chunkSize : Option Nat)
    (errors : Option String)
  | template (target : Target) (output : Option String)
  | exportSheet (target : Target) (output : Option String)
  | showPolicy (target : Target)
  | setPolicy (target : Target) (keys : List String)
  | serve (port : Option Nat)
  deriving DecidableEq, Repr

/-- A command and the folder of the store to be used for it. -/
structure Invocation where
  dataDir : Option String
  command : Command
  deriving DecidableEq, Repr

namespace Command

/-- Whether a text can be a path. -/
def isPath (s : String) : Bool := !s.isEmpty

/-- The size of a chunk. -/
def readChunkSize (s : String) : Option Nat := Number.readUnsigned Number.maxWord64 s

/-- The option for the folder of the store. -/
def dataDirOption : OptionSpec := ⟨"data-dir", none, false, isPath⟩

/-- The options for the target of a command. -/
def targetOptions : List OptionSpec :=
  [⟨"project", some 'p', false, fun _ => true⟩, ⟨"kind", some 'k', false, fun _ => true⟩]

/-- The option for the file that a command writes. -/
def outputOption : OptionSpec := ⟨"output", some 'o', false, isPath⟩

/-- The option for the file of the errors. -/
def errorsOption : OptionSpec := ⟨"errors", none, false, isPath⟩

/-- The option for the size of chunks. -/
def chunkSizeOption : OptionSpec :=
  ⟨"chunk-size", none, false, fun s => (readChunkSize s).isSome⟩

/-- The option for the keys of required fields. -/
def requireOption : OptionSpec := ⟨"require", some 'r', true, fun _ => true⟩

/-- A port, with a sign or without one. -/
def readPort (s : String) : Option Nat :=
  match s.toList with
  | '-' :: digits => if !digits.isEmpty && digits.all (· == '0') then some 0 else none
  | _ => Number.readUnsigned Number.maxWord16 s

/-- The option for the port of the server. -/
def portOption : OptionSpec := ⟨"port", some 'p', false, fun s => (readPort s).isSome⟩

/-- A target. -/
def target (scanned : Scanned) : Except UsageError Target := do
  let project ← scanned.required "project"
  let kind ← scanned.required "kind"
  return ⟨project, kind⟩

/-- The only plain argument, which is a path. -/
def input (scanned : Scanned) : Except UsageError String :=
  match scanned.plain with
  | [path] => if isPath path then .ok path else .error .invalid
  | _ => .error .invalid

/-- That there is no plain argument. -/
def noInput (scanned : Scanned) : Except UsageError Unit :=
  if scanned.plain.isEmpty then .ok () else .error .invalid

/-- The size of chunks, if it is given. -/
def chunkSize (scanned : Scanned) : Option Nat :=
  (scanned.value? "chunk-size").bind readChunkSize

/-- How a command is read: its options, and what they and the plain arguments make of it. -/
structure Form where
  options : List OptionSpec
  build : Scanned → Except UsageError Command

/-- The commands that stand alone. -/
def formOf? (name : String) : Option Form :=
  match name with
  | "validate" => some ⟨targetOptions ++ [outputOption, errorsOption], fun s => do
      return validate (← input s) (← target s) (s.value? "output") (s.value? "errors")⟩
  | "commit" => some ⟨targetOptions ++ [chunkSizeOption, errorsOption], fun s => do
      return commit (← input s) (← target s) (chunkSize s) (s.value? "errors")⟩
  | "import" => some ⟨targetOptions ++ [chunkSizeOption, errorsOption], fun s => do
      return importFile (← input s) (← target s) (chunkSize s) (s.value? "errors")⟩
  | "template" => some ⟨targetOptions ++ [outputOption], fun s => do
      noInput s
      return template (← target s) (s.value? "output")⟩
  | "export" => some ⟨targetOptions ++ [outputOption], fun s => do
      noInput s
      return exportSheet (← target s) (s.value? "output")⟩
  | "serve" => some ⟨[portOption], fun s => do
      noInput s
      return serve ((s.value? "port").bind readPort)⟩
  | _ => none

/-- The commands about policies. -/
def policyFormOf? (name : String) : Option Form :=
  match name with
  | "show" => some ⟨targetOptions, fun s => do
      noInput s
      return showPolicy (← target s)⟩
  | "set" => some ⟨targetOptions ++ [requireOption], fun s => do
      noInput s
      return setPolicy (← target s) (s.all "require")⟩
  | _ => none

end Command

namespace Invocation

/-- The invocation of a command whose name has been read, under the folder named before. -/
def ofForm (dataDir : Option String) (found : Option Command.Form) (arguments : List String) :
    Except UsageError Invocation :=
  match found with
  | none => .error .invalid
  | some how => do
    let (scanned, _) ←
      OptionSpec.scan (Command.dataDirOption :: how.options) false none .empty arguments
    let command ← how.build scanned
    return ⟨(scanned.value? "data-dir").or dataDir, command⟩

/-- The name of a command, the folder named before it, and the arguments after it. -/
def readName (dataDir : Option String) (arguments : List String) :
    Except UsageError (Option String × String × List String) := do
  let (scanned, rest) ← OptionSpec.scan [Command.dataDirOption] true none .empty arguments
  match scanned.plain with
  | [name] => return ((scanned.value? "data-dir").or dataDir, name, rest)
  | _ => throw .invalid

/-- Whether there is help on the given names: on none, on a command, or on one about policies. -/
def isHelpTopic : List String → Bool
  | [] => true
  | [name] => name == "help" || name == "policy" || (Command.formOf? name).isSome
  | ["policy", action] => action == "help" || (Command.policyFormOf? action).isSome
  | _ => false

/-- The answer to a command for help with the given names. -/
def help (names : List String) : UsageError :=
  if isHelpTopic names then .help else .invalid

/-- The invocation that a command line asks for. The folder named last counts. -/
def parse (arguments : List String) : Except UsageError Invocation := do
  let (dataDir, name, rest) ← readName none arguments
  if name == "help" then throw (help rest)
  else if name == "policy" then
    let (dataDir, action, rest) ← readName dataDir rest
    if action == "help" then throw (help ("policy" :: rest))
    else ofForm dataDir (Command.policyFormOf? action) rest
  else ofForm dataDir (Command.formOf? name) rest

end Invocation

end AddressIntake.Cli
