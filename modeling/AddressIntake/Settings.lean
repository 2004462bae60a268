import AddressIntake.Number.Unsigned
import AddressIntake.Text.Blank

namespace AddressIntake

/-- Why settings cannot be used. -/
inductive SettingsError where
  | invalidValue (name value : String)
  | zeroChunkSize
  deriving DecidableEq, Repr

/-- The wording of an error. -/
def SettingsError.message : SettingsError → String
  | invalidValue name value => s!"Invalid value for {name}: '{value}'"
  | zeroChunkSize => "Chunk size must be at least 1"

/-- Where records are kept, the port of the server, and how many rows are written at once. -/
structure Settings where
  dataDir : String
  port : Nat
  chunkSize : Nat
  deriving DecidableEq, Repr

namespace Settings

/-- How many rows are written at once if nothing else is said. -/
def defaultChunkSize : Nat := 100

/-- The settings when no variable is set. -/
def default : Settings := ⟨".addrload", 3000, defaultChunkSize⟩

/-- The value of a variable that is not blank. -/
def value? (lookup : String → Option String) (name : String) : Option String :=
  (lookup name).filter (!Text.isBlank ·)

/-- The number in a variable, if it is set. -/
def number (lookup : String → Option String) (name : String) (limit fallback : Nat) :
    Except SettingsError Nat :=
  match value? lookup name with
  | none => .ok fallback
  | some raw =>
    match Number.readUnsigned limit (Text.trim raw) with
    | some n => .ok n
    | none => .error (.invalidValue name raw)

/-- The settings that variables give. -/
def ofLookup (lookup : String → Option String) : Except SettingsError Settings := do
  let dataDir := (value? lookup "ADDRLOAD_DATA_DIR").getD default.dataDir
  let port ← number lookup "ADDRLOAD_PORT" Number.maxWord16 default.port
  let chunkSize ← number lookup "ADDRLOAD_CHUNK_SIZE" Number.maxWord64 default.chunkSize
  if chunkSize == 0 then throw .zeroChunkSize
  return ⟨dataDir, port, chunkSize⟩

end Settings

end AddressIntake
