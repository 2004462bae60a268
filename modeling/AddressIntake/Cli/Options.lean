namespace AddressIntake.Cli

/-- Why a command line is not obeyed. -/
inductive UsageError where
  /-- The user asks for help. -/
  | help
  | invalid
  deriving DecidableEq, Repr

/-- An option: its long name, its letter, whether it may be given more than once, and the values
that it takes. A value follows its option as the next argument, or within the same one. -/
structure OptionSpec where
  long : String
  short : Option Char
  repeatable : Bool
  accepts : String → Bool

/-- What a single argument is. -/
inductive ArgumentKind where
  | plain
  /-- Two hyphens, after which all arguments are plain. -/
  | separator
  /-- An option with its value, or with nothing if the value is the next argument. -/
  | option (spec : OptionSpec) (value : Option String)
  | help
  | unknown

/-- The values of options in the order in which they were given, and the plain arguments. -/
structure Scanned where
  values : List (String × String)
  plain : List String
  deriving DecidableEq, Repr

namespace OptionSpec

/-- The kind of an argument that starts with two hyphens. -/
def classifyLong (specs : List OptionSpec) (body : List Char) : ArgumentKind :=
  let name := String.ofList (body.takeWhile (· != '='))
  match specs.find? (·.long == name), body.dropWhile (· != '=') with
  | some spec, '=' :: value => .option spec (some (String.ofList value))
  | some spec, _ => .option spec none
  | none, [] => if name == "help" then .help else .unknown
  | none, _ => .unknown

/-- The kind of an argument that starts with one hyphen and a letter. -/
def classifyShort (specs : List OptionSpec) (letter : Char) (value : List Char) : ArgumentKind :=
  match specs.find? (·.short == some letter), value with
  | some spec, [] => .option spec none
  | some spec, '=' :: rest => .option spec (some (String.ofList rest))
  | some spec, rest => .option spec (some (String.ofList rest))
  | none, _ => if letter == 'h' then .help else .unknown

/-- The kind of an argument. -/
def classify (specs : List OptionSpec) (argument : String) : ArgumentKind :=
  match argument.toList with
  | ['-', '-'] => .separator
  | '-' :: '-' :: body => classifyLong specs body
  | '-' :: letter :: value => classifyShort specs letter value
  | _ => .plain

/-- The values with one more, if the option takes it and may still be given. -/
def addValue (spec : OptionSpec) (value : String) (scanned : Scanned) :
    Except UsageError Scanned :=
  if !spec.accepts value then .error .invalid
  else if !spec.repeatable && scanned.values.any (·.1 == spec.long) then .error .invalid
  else .ok { scanned with values := scanned.values ++ [(spec.long, value)] }

/-- Scans arguments up to the first plain one if asked to, and returns those after it. The option is
one that still waits for its value, which has to be a plain argument. -/
def scan (specs : List OptionSpec) (stopAtPlain : Bool) :
    Option OptionSpec → Scanned → List String → Except UsageError (Scanned × List String)
  | none, scanned, [] => .ok (scanned, [])
  | some _, _, [] => .error .invalid
  | some spec, scanned, argument :: rest =>
    match classify specs argument with
    | .plain =>
      match spec.addValue argument scanned with
      | .error e => .error e
      | .ok scanned => scan specs stopAtPlain none scanned rest
    | _ => .error .invalid
  | none, scanned, argument :: rest =>
    match classify specs argument with
    | .plain =>
      let scanned := { scanned with plain := scanned.plain ++ [argument] }
      if stopAtPlain then .ok (scanned, rest) else scan specs stopAtPlain none scanned rest
    | .separator =>
      if stopAtPlain && !rest.isEmpty then .error .invalid
      else .ok ({ scanned with plain := scanned.plain ++ rest }, [])
    | .option spec none => scan specs stopAtPlain (some spec) scanned rest
    | .option spec (some value) =>
      match spec.addValue value scanned with
      | .error e => .error e
      | .ok scanned => scan specs stopAtPlain none scanned rest
    | .help => .error .help
    | .unknown => .error .invalid

end OptionSpec

namespace Scanned

/-- Nothing scanned yet. -/
def empty : Scanned := ⟨[], []⟩

/-- The value of an option. -/
def value? (scanned : Scanned) (name : String) : Option String :=
  scanned.values.lookup name

/-- The value of an option that has to be given. -/
def required (scanned : Scanned) (name : String) : Except UsageError String :=
  match scanned.value? name with
  | some value => .ok value
  | none => .error .invalid

/-- The values of an option that may be given more than once. -/
def all (scanned : Scanned) (name : String) : List String :=
  (scanned.values.filter (·.1 == name)).map (·.2)

end Scanned

end AddressIntake.Cli
