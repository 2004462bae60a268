import AddressIntake.Cli.Program
import Std.Time.DateTime

namespace AddressIntake.Main

/-- The cause of an error of the operating system. -/
def fileError : IO.Error → FileError
  | .noFileOrDirectory .. => .notFound
  | .alreadyExists .. => .alreadyThere
  | .inappropriateType _ code _ => if code == 20 then .notFolder else .isFolder
  | .invalidArgument _ 36 _ => .nameTooLong
  | e => .other (toString e)

/-- The outcome of an action on files. -/
def attempt {α : Type} (action : IO α) : IO (Except FileError α) := do
  try
    return .ok (← action)
  catch e => return .error (fileError e)

/-- The name of a charset that the bytes fit. -/
def charsetOf (data : List UInt8) : String :=
  if (Text.Utf8.decode? data).isSome then "utf-8" else "windows-1252"

/-- The bytes of a document. -/
def bytesOf : Document → ByteArray
  | .bytes data _ => ⟨data.toArray⟩
  | .workbook _ => .empty

/-- The files of the machine. -/
def files : Files IO
  | .present path => do
    match ← attempt (IO.FS.Handle.mk path .read) with
    | .ok _ => return true
    | .error _ => return false
  | .read path => attempt do
    let data := (← IO.FS.readBinFile path).toList
    return .bytes data (charsetOf data)
  | .write path content => attempt (IO.FS.writeBinFile path (bytesOf content))
  | .rename source target => attempt (IO.FS.rename source target)
  | .makeFolders path => attempt (IO.FS.createDirAll path)

/-- The moment now. -/
def now : IO Timestamp := do
  let t := Std.Time.PlainDateTime.ofWallTime (.ofTimestamp (← Std.Time.Timestamp.now) .zero)
  let civil : CivilTime :=
    ⟨⟨t.date.year, t.date.month.val.toNat, t.date.day.val.toNat⟩, t.time.hour.val.toNat,
      t.time.minute.val.toNat, t.time.second.val.toNat, t.time.nanosecond.val.toNat⟩
  return if h : civil.IsValid then ⟨civil, h⟩ else .epoch

/-- The machine that the program runs on. It has no network of its own. -/
def machine : Cli.Machine IO where
  files := files
  stamp := do
    let data ← IO.getRandomBytes 16
    return ⟨RecordId.ofRandom data.toList, ← now⟩
  print := IO.print
  report := IO.eprint
  serve _ := return .error "this machine has no network to listen on"

/-- The variables that the program looks at. -/
def variableNames : List String :=
  ["ADDRLOAD_DATA_DIR", "ADDRLOAD_PORT", "ADDRLOAD_CHUNK_SIZE"]

end AddressIntake.Main

/-- Runs the program. -/
def main (arguments : List String) : IO UInt32 := do
  let found ← AddressIntake.Main.variableNames.filterMapM fun name => do
    return (← IO.getEnv name).map fun value => (name, value)
  let status ← AddressIntake.Cli.run AddressIntake.Main.machine
    (fun name => found.lookup name) arguments
  return UInt32.ofNat status
