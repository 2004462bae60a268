import AddressIntake.Http.MediaType
import AddressIntake.Json.Printer

namespace AddressIntake.Http

/-- Headers in their order. -/
abbrev Headers := List (String × String)

/-- The value of a header, whose name may be in any case. -/
def Headers.get? (headers : Headers) (name : String) : Option String :=
  (headers.find? fun header => MediaType.name header.1.toList == name).map (·.2)

/-- A request for the resource at a target. -/
structure Request where
  method : String
  target : String
  headers : Headers
  body : List UInt8

namespace Request

/-- The type of the content, if it is declared. -/
def mediaType? (request : Request) : Option MediaType :=
  (request.headers.get? "content-type").bind MediaType.parse?

end Request

/-- The answer to a request. -/
structure Response where
  status : Nat
  headers : Headers
  body : List Char
  deriving DecidableEq, Repr

namespace Response

/-- A response without content. -/
def bare (status : Nat) (headers : Headers) : Response :=
  ⟨status, headers, []⟩

/-- A response with a JSON value. -/
def json (status : Nat) (value : Json) : Response :=
  ⟨status, [("content-type", "application/json")], Json.compact value⟩

/-- A response that turns a request down before any work is done. -/
def rejection (status : Nat) (reason : String) : Response :=
  ⟨status, [("content-type", "text/plain; charset=utf-8")], reason.toList⟩

/-- Whether a character may stand in the value of a header. -/
def isHeaderChar (c : Char) : Bool :=
  c == '\t' || (0x20 ≤ c.toNat && c.toNat != 0x7F)

/-- A response with a file to be saved under a name. A name that cannot stand in a header is an
error of the server. -/
def download (contentType fileName : String) (content : List Char) : Response :=
  let disposition := s!"attachment; filename=\"{fileName}\""
  if disposition.toList.all isHeaderChar then
    ⟨200, [("content-type", contentType), ("content-disposition", disposition)], content⟩
  else rejection 500 "failed to parse header value"

end Response

end AddressIntake.Http
