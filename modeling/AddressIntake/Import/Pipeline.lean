import AddressIntake.Log
import AddressIntake.Script
import AddressIntake.Sheet
import AddressIntake.Store.Request
import AddressIntake.Table

namespace AddressIntake

/-- Why an import ends without a result. -/
inductive ImportError where
  | parse (error : ParseError)
  | store (error : StoreError)
  | render (error : RenderError)
  | unknownKind (name : String)
  deriving DecidableEq, Repr

/-- The wording of an error. -/
def ImportError.message : ImportError → String
  | parse error => s!"Parse error: {error.message}"
  | store error => s!"Storage error: {error.message}"
  | render error => s!"Render error: {error.message}"
  | unknownKind name => s!"Unknown address type: {name}"

/-- The kind of address that a text names. -/
def AddressKind.parse (s : String) : Except ImportError AddressKind :=
  match AddressKind.parse? s with
  | some kind => .ok kind
  | none => .error (.unknownKind s)

/-- What an import asks of its surroundings. -/
inductive Effect where
  | store (request : StoreRequest)
  | log (line : LogLine)

/-- The type of the answer to an effect. -/
def Effect.Answer : Effect → Type
  | .store request => request.Answer
  | .log _ => Unit

/-- A script over a store and a log. -/
abbrev Pipeline := Script Effect Effect.Answer

namespace Pipeline

/-- Asks the store. -/
def ask (request : StoreRequest) : Pipeline request.Answer :=
  Script.request (Effect.store request)

/-- Publishes a message. -/
def log (line : LogLine) : Pipeline Unit :=
  Script.request (Effect.log line)

/-- Publishes messages one after the other. -/
def logAll : List LogLine → Pipeline Unit
  | [] => pure ()
  | line :: rest => do
    log line
    logAll rest

/-- The answers to effects when the log is kept by a given action. -/
def answer {m : Type → Type} (store : Store m) (publish : LogLine → m Unit) :
    (e : Effect) → m e.Answer
  | .store request => store request
  | .log line => publish line

end Pipeline

end AddressIntake
