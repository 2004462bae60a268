import AddressIntake.Number.Unsigned
import AddressIntake.Timestamp

namespace AddressIntake

/-- The weight of a message. -/
inductive LogLevel where
  | info
  | success
  | warning
  | error
  deriving DecidableEq, Repr

namespace LogLevel

/-- All levels. -/
def all : List LogLevel := [info, success, warning, error]

/-- The name of a level. -/
def tag : LogLevel → String
  | info => "info"
  | success => "success"
  | warning => "warning"
  | error => "error"

/-- The level with a given name. -/
def ofTag? (tag : String) : Option LogLevel :=
  all.find? (·.tag == tag)

/-- What a message of a level starts with on a console. -/
def sign : LogLevel → String
  | info => "   "
  | success => "   ✓"
  | warning => "   ⚠️"
  | error => "   ❌"

end LogLevel

/-- A message without its moment. -/
structure LogLine where
  level : LogLevel
  message : String
  indent : Nat
  deriving DecidableEq, Repr

namespace LogLine

/-- A message of the given level. -/
def info (message : String) : LogLine := ⟨.info, message, 0⟩

/-- A message about something that went well. -/
def success (message : String) : LogLine := ⟨.success, message, 0⟩

/-- A message about something to be noticed. -/
def warning (message : String) : LogLine := ⟨.warning, message, 0⟩

/-- A message about something that failed. -/
def error (message : String) : LogLine := ⟨.error, message, 0⟩

/-- The message one step further in. -/
def indented (line : LogLine) : LogLine := { line with indent := line.indent + 1 }

/-- The message on a console. -/
def toText (line : LogLine) : String :=
  let margin := String.ofList (List.replicate (3 * line.indent) ' ')
  s!"{margin}{line.level.sign} {line.message}"

/-- The members of the JSON object of a message. -/
def members (line : LogLine) : List (String × Json) :=
  [("level", .str line.level.tag), ("message", .str line.message), ("indent", .ofNat line.indent)]

end LogLine

/-- A message with the moment of its publication. -/
structure LogEntry where
  line : LogLine
  timestamp : Timestamp
  deriving DecidableEq

namespace LogEntry

open Json

/-- The JSON object of an entry. -/
def toJson (entry : LogEntry) : Json :=
  .obj (entry.line.members ++ [("timestamp", entry.timestamp.toJson)])

/-- The entry in a JSON record. -/
def decoder : Decoder LogEntry :=
  Record.decoder <| (fun level message indent => LogEntry.mk ⟨level, message, indent⟩) <$>
    Record.required "level" (Decoder.choice LogLevel.ofTag?) <*>
    Record.required "message" Decoder.string <*>
    Record.withDefault "indent" 0 (Decoder.unsigned 255) <*>
    Record.required "timestamp" Timestamp.decoder

end LogEntry

/-- How many unread entries a listener keeps. -/
def logCapacity : Nat := 256

/-- The unread entries of a listener after one more was published. The oldest one gives way when
there is no room. -/
def publish (unread : List LogLine) (line : LogLine) : List LogLine :=
  let all := unread ++ [line]
  all.drop (all.length - logCapacity)

end AddressIntake
