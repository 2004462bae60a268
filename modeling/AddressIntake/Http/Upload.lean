import AddressIntake.Http.Failure
import AddressIntake.Http.Multipart
import AddressIntake.Text.Charset.Decode

namespace AddressIntake.Http

/-- What the parts seen so far tell about the file. -/
structure Upload where
  content : Option (List UInt8)
  kind : Option FileKind

namespace Upload

/-- Nothing seen. -/
def empty : Upload := ⟨none, none⟩

/-- What is said when a form is not cut as it should be. -/
def malformed : String := "Error parsing `multipart/form-data` request"

/-- The kind of file that a media type names. One with parameters names none. -/
def kindOfType (media : MediaType) : Option FileKind :=
  if media.parameters.isEmpty then FileKind.parse? media.essence else none

/-- The kind of file that the name of the file tells, or else its type. -/
def declaredKind (part : Part) : Option FileKind :=
  ((part.fileName.bind FileKind.extension?).bind FileKind.parse?).or
    (part.mediaType.bind kindOfType)

/-- The content of a part as text, in the charset that its type declares, or else in UTF-8. -/
def partText (part : Part) : List Char :=
  Text.Charset.decodeLabelled
    ((part.mediaType.bind (·.parameter? "charset")).getD "utf-8") part.content

/-- What is known after one more part. The latest file counts, and the kind that was known first
unless a part names it. -/
def add (upload : Upload) (part : Part) : Except Failure Upload :=
  match part.name with
  | some "file" =>
    .ok ⟨some part.content, upload.kind.or (declaredKind part)⟩
  | some "kind" =>
    match FileKind.parse (String.ofList (partText part)) with
    | .ok kind => .ok { upload with kind := some kind }
    | .error e => .error (.intake (.parse e))
  | _ => .ok upload

/-- The error of a part whose content does not end. -/
def unfinished (part : Part) : Failure :=
  if part.name == some "file" || part.name == some "kind" then
    .badRequest s!"Read error: {malformed}"
  else .badRequest s!"Multipart error: {malformed}"

/-- What is known after all parts. -/
def ofParts (parts : List Part) (outcome : Multipart.Outcome) : Except Failure Upload := do
  let upload ← parts.foldlM add empty
  match outcome with
  | .complete => return upload
  | .broken => throw (.badRequest s!"Multipart error: {malformed}")
  | .unfinished part => throw (unfinished part)

/-- The file and its kind, if both are known. -/
def file (upload : Upload) : Except Failure (List UInt8 × FileKind) :=
  match upload.content, upload.kind with
  | none, _ => .error (.badRequest "No file provided")
  | some _, none => .error (.badRequest "Cannot tell the file kind")
  | some content, some kind => .ok (content, kind)

end Upload

end AddressIntake.Http
