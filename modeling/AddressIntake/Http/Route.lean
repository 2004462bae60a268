import AddressIntake.AddressKind
import AddressIntake.Json.Reader

namespace AddressIntake.Http

/-- What can be asked about the addresses of one kind in a project. -/
inductive TargetAction where
  | validate
  | commit
  | template
  | exportSheet
  | policy
  deriving DecidableEq, Repr

namespace TargetAction

/-- All actions. -/
def all : List TargetAction := [validate, commit, template, exportSheet, policy]

/-- The name of an action in a target. -/
def segment : TargetAction → String
  | validate => "validate"
  | commit => "commit"
  | template => "template"
  | exportSheet => "export"
  | policy => "policy"

/-- The methods that an action answers. -/
def methods : TargetAction → List String
  | validate | commit => ["POST"]
  | template | exportSheet => ["GET", "HEAD"]
  | policy => ["GET", "HEAD", "PUT"]

end TargetAction

/-- A resource, with the variable parts of its target as they are written there. -/
inductive Route where
  | health
  | addresses (project kind : String) (action : TargetAction)
  | address (id : String)
  | errorReport
  | logs
  deriving DecidableEq, Repr

namespace Route

/-- The methods that a resource answers. -/
def methods : Route → List String
  | health | address _ | logs => ["GET", "HEAD"]
  | addresses _ _ action => action.methods
  | errorReport => ["POST"]

/-- The characters of the scheme of a target. -/
def isSchemeChar (c : Char) : Bool :=
  c.isAlphanum || c == '+' || c == '-' || c == '.'

/-- The path of a target, without query and fragment. A target that names its host has the path of
the root if it has no other; any other target is all path. -/
def path (target : String) : List Char :=
  let ended := target.toList.takeWhile fun c => c != '?' && c != '#'
  match ended.dropWhile isSchemeChar with
  | ':' :: '/' :: '/' :: rest =>
    let found := rest.dropWhile (· != '/')
    if found.isEmpty then ['/'] else found
  | _ => ended

/-- The parts of the path of a target between its slashes. -/
def segments (target : String) : List String :=
  ((path target).splitOnP (· == '/')).map String.ofList

/-- The resource at a target. The variable part at the end of one is not empty. -/
def parse? (target : String) : Option Route :=
  match segments target with
  | ["", ""] => some health
  | ["", "health"] => some health
  | ["", "api", "projects", project, "addresses", kind, action] =>
    (TargetAction.all.find? (·.segment == action)).map (addresses project kind)
  | ["", "api", "addresses", id] => if id.isEmpty then none else some (address id)
  | ["", "api", "errors", "report"] => some errorReport
  | ["", "api", "logs"] => some logs
  | _ => none

end Route

/-- The bytes of a text in which a percent sign and two digits stand for a byte. -/
def percentBytes : List Char → List UInt8
  | '%' :: a :: b :: rest =>
    match Json.hexValue? a, Json.hexValue? b with
    | some high, some low => UInt8.ofNat (high * 16 + low) :: percentBytes rest
    | _, _ => 0x25 :: percentBytes (a :: b :: rest)
  | c :: rest => String.utf8EncodeChar c ++ percentBytes rest
  | [] => []

/-- The text of a variable part of a target, if its bytes are text. -/
def percentDecode? (s : String) : Option String :=
  (Text.Utf8.decode? (percentBytes s.toList)).map String.ofList

end AddressIntake.Http
