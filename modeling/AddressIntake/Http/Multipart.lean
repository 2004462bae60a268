import AddressIntake.Http.Disposition
import AddressIntake.Http.HeaderBlock

namespace AddressIntake.Http

/-- A part of a form: the name of its field, the name and the type of the file in it, and its
content. -/
structure Part where
  name : Option String
  fileName : Option String
  mediaType : Option MediaType
  content : List UInt8
  deriving DecidableEq, Repr

namespace Multipart

/-- How the parts of a form go on after some of them. -/
inductive Outcome where
  /-- The form ends as it should. -/
  | complete
  /-- There is no further part to be found. -/
  | broken
  /-- There is one more part, whose content does not end. -/
  | unfinished (part : Part)
  deriving DecidableEq, Repr

/-- The content before the first occurrence of a text, and the content after it. -/
def cut? (mark : List UInt8) : List UInt8 → Option (List UInt8 × List UInt8)
  | [] => if mark.isEmpty then some ([], []) else none
  | b :: rest =>
    if mark.isPrefixOf (b :: rest) then some ([], (b :: rest).drop mark.length)
    else (cut? mark rest).map fun found => (b :: found.1, found.2)

/-- The bytes of a text. -/
def bytes (s : String) : List UInt8 :=
  Text.Utf8.encode s.toList

/-- The bytes that end a line. -/
def lineEnd : List UInt8 := [0x0D, 0x0A]

/-- The headers in front of a part and its content: two line ends in a row stand between them. -/
def cutHeaders? (data : List UInt8) : Option (HeaderBlock × List UInt8) := do
  let (lines, content) ← cut? (lineEnd ++ lineEnd) data
  let block ← HeaderBlock.ofBytes? (lines ++ lineEnd ++ lineEnd)
  return (block, content)

/-- The part with the given headers and content. -/
def part (block : HeaderBlock) (content : List UInt8) : Part :=
  let disposition := block.get? "content-disposition"
  { name := disposition.bind (Disposition.parameter? "name")
    fileName := disposition.bind (Disposition.parameter? "filename")
    mediaType := do
      let value ← block.get? "content-type"
      let text ← Text.Utf8.decode? value
      MediaType.parse? (String.ofList text)
    content := content }

/-- The parts of content that stands after a boundary. The number limits how many there are. -/
def partsFrom (boundary : List UInt8) : Nat → List UInt8 → List Part × Outcome
  | 0, _ => ([], .broken)
  | limit + 1, data =>
    if (bytes "--").isPrefixOf data then ([], .complete)
    else
      let visible := data.dropWhile HeaderBlock.isGap
      if lineEnd.isPrefixOf visible then
        match cutHeaders? (visible.drop lineEnd.length) with
        | none => ([], .broken)
        | some (block, rest) =>
          match cut? (lineEnd ++ boundary) rest with
          | none => ([], .unfinished (part block rest))
          | some (content, next) =>
            let found := partsFrom boundary limit next
            (part block content :: found.1, found.2)
      else ([], .broken)

/-- The parts of the content of a request. Each part follows a line with two hyphens and the
boundary and starts with headers; two more hyphens follow the boundary after the last one. -/
def parts (boundary : String) (data : List UInt8) : List Part × Outcome :=
  let mark := bytes ("--" ++ boundary)
  match cut? mark data with
  | none => ([], .broken)
  | some (_, rest) => partsFrom mark (rest.length + 1) rest

end Multipart

end AddressIntake.Http
