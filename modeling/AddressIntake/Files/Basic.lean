import AddressIntake.Table

namespace AddressIntake

/-- Why a request about a file fails. -/
inductive FileError where
  | notFound
  | alreadyThere
  | notFolder
  | isFolder
  | nameTooLong
  /-- There is a NUL character in the path. -/
  | invalidName
  | other (reason : String)
  deriving DecidableEq, Repr

/-- The wording of an error, with the number that the operating system gives it. -/
def FileError.message : FileError → String
  | notFound => "No such file or directory (os error 2)"
  | alreadyThere => "File exists (os error 17)"
  | notFolder => "Not a directory (os error 20)"
  | isFolder => "Is a directory (os error 21)"
  | nameTooLong => "File name too long (os error 36)"
  | invalidName => "file name contained an unexpected NUL byte"
  | other reason => reason

/-- The reason why the content of a file cannot be read as text. -/
def invalidText : String := "stream did not contain valid UTF-8"

/-- A request about the file or folder at a path. -/
inductive FileRequest where
  /-- Whether something is there. -/
  | present (path : String)
  /-- The content of a file. -/
  | read (path : String)
  /-- To give a file this content, whether it is there or not. -/
  | write (path : String) (content : Document)
  /-- To move a file to another path, over the file that may be there. -/
  | rename (source target : String)
  /-- To make a folder, and the folders that it is in, unless they are there. -/
  | makeFolders (path : String)

/-- The type of the answer to a request. -/
def FileRequest.Answer : FileRequest → Type
  | .present _ => Bool
  | .read _ => Except FileError Document
  | .write .. => Except FileError Unit
  | .rename .. => Except FileError Unit
  | .makeFolders _ => Except FileError Unit

/-- Files answer requests in a monad: those of a machine, or a tree in memory. -/
abbrev Files (m : Type → Type) := (r : FileRequest) → m r.Answer

namespace Files

variable {m : Type → Type} [Monad m]

/-- The content of a file as text, or the reason why there is none. -/
def readText (files : Files m) (path : String) : m (Except String (List Char)) := do
  match ← files (.read path) with
  | .error e => return .error e.message
  | .ok document =>
    match document.text? with
    | some cs => return .ok cs
    | none => return .error invalidText

end Files

/-- The path of a name within a folder. A rooted name stands for itself. -/
def joinPath (folder name : String) : String :=
  if folder.isEmpty || name.toList.head? == some '/' then name
  else if folder.toList.getLast? == some '/' then folder ++ name
  else folder ++ "/" ++ name

end AddressIntake
