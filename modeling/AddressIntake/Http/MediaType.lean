namespace AddressIntake.Http

/-- A media type. All names are in lower case; the values of parameters are kept as they are. -/
structure MediaType where
  type : String
  subtype : String
  suffix : Option String
  parameters : List (String × String)
  deriving DecidableEq, Repr

namespace MediaType

/-- The characters of names and of values without quotes. -/
def isTokenChar (c : Char) : Bool :=
  c.isAlphanum || "!#$%&'*+-.^_`|~".toList.contains c

/-- The characters of values in quotes. -/
def isQuotedChar (c : Char) : Bool :=
  0x20 ≤ c.toNat && c.toNat < 0x7F

/-- Characters as a name. -/
def name (cs : List Char) : String :=
  String.ofList (cs.map Char.toLower)

/-- What stands before the last plus sign of a subtype, and what stands after it. -/
def splitSuffix (cs : List Char) : List Char × Option (List Char) :=
  let after := (cs.reverse.takeWhile (· != '+')).reverse
  if after.length + 1 < cs.length then (cs.take (cs.length - after.length - 1), some after)
  else (cs, none)

/-- The value in quotes in front of a text, after its opening quote, and the text after the
semicolon that follows it. The first character belongs to the value even if it is a quote, so that
no value is empty. -/
def readQuoted : List Char → Option (String × List Char)
  | [] => none
  | first :: rest =>
    let inside (c : Char) : Bool := c != '"' && isQuotedChar c
    if isQuotedChar first then
      match rest.dropWhile inside with
      | '"' :: after =>
        let value := String.ofList (first :: rest.takeWhile inside)
        match after.dropWhile (· == ' ') with
        | [] => some (value, [])
        | ';' :: next => some (value, next)
        | _ => none
      | _ => none
    else none

/-- The value without quotes in front of a text, and the text after the semicolon that follows it.
Only at the end of the text may the value be empty. -/
def readPlain (cs : List Char) : Option (String × List Char) :=
  let value := cs.takeWhile isTokenChar
  match cs.dropWhile isTokenChar with
  | [] => some (String.ofList value, [])
  | ';' :: next => if value.isEmpty then none else some (String.ofList value, next)
  | _ => none

/-- A parameter in front of a text, and the text after its semicolon. -/
def readParameter (cs : List Char) : Option ((String × String) × List Char) :=
  let key := cs.takeWhile isTokenChar
  let value? := match cs.dropWhile isTokenChar with
    | '=' :: '"' :: rest => readQuoted rest
    | '=' :: rest => readPlain rest
    | _ => none
  if key.isEmpty then none else value?.map fun (value, rest) => ((name key, value), rest)

/-- The parameters of a text, of which there are at most the given number. -/
def readParameters : Nat → List Char → Option (List (String × String))
  | 0, cs => if cs.isEmpty then some [] else none
  | limit + 1, cs =>
    match cs.dropWhile (· == ' ') with
    | [] => some []
    | visible =>
      match readParameter visible with
      | some (parameter, rest) => (readParameters limit rest).map (parameter :: ·)
      | none => none

/-- The media type of a text. A subtype that parameters follow is not empty. -/
def parse? (s : String) : Option MediaType :=
  let cs := s.toList
  let type := cs.takeWhile isTokenChar
  match cs.dropWhile isTokenChar with
  | '/' :: rest =>
    let whole := rest.takeWhile isTokenChar
    let subtype := splitSuffix whole
    let parameters := match rest.dropWhile isTokenChar with
      | [] => some []
      | ';' :: after => if whole.isEmpty then none else readParameters after.length after
      | _ => none
    if type.isEmpty then none
    else parameters.map fun found =>
      ⟨name type, name subtype.1, subtype.2.map name, found⟩
  | _ => none

/-- The text of a media type without its parameters. -/
def essence (media : MediaType) : String :=
  media.type ++ "/" ++ media.subtype ++
    match media.suffix with
    | some suffix => "+" ++ suffix
    | none => ""

/-- The value of a parameter. -/
def parameter? (media : MediaType) (key : String) : Option String :=
  media.parameters.lookup key

/-- Whether content of the type is JSON. -/
def isJson (media : MediaType) : Bool :=
  media.type == "application" && (media.subtype == "json" || media.suffix == some "json")

/-- The text between the parts of a form, if the type is that of forms in parts. -/
def boundary? (media : MediaType) : Option String :=
  if media.type == "multipart" && media.subtype == "form-data" then
    media.parameter? "boundary"
  else none

end MediaType

end AddressIntake.Http
