import AddressIntake.Text.Alphanumeric
import AddressIntake.Text.Blank
import AddressIntake.Text.Utf8

namespace AddressIntake.Variables

open Text

/-- Where the text of a file stands with regard to quotes and to gaps, after which a comment may
start. -/
inductive Quoting where
  | plain
  | gap
  | escape
  | double
  | doubleEscape
  | single
  | singleEscape
  deriving DecidableEq, Repr

namespace Quoting

/-- The place after a character that quotes or escapes what follows, or the given one. -/
def opened (c : Char) (otherwise : Quoting) : Quoting :=
  if c == '\\' then escape
  else if c == '"' then double
  else if c == '\'' then single
  else otherwise

/-- The place after one more character that starts no comment. Of blanks in a row only every other
one makes a gap. -/
def next : Quoting → Char → Quoting
  | plain, c => opened c (if isBlankChar c && c != '\n' && c != '\r' then gap else plain)
  | gap, c => opened c plain
  | escape, _ => plain
  | double, c => if c == '\\' then doubleEscape else if c == '"' then plain else double
  | doubleEscape, _ => double
  | single, c => if c == '\\' then singleEscape else if c == '\'' then plain else single
  | singleEscape, _ => single

/-- A line without the comment that follows a gap in it, and the place at its end. -/
def scan : Quoting → List Char → List Char × Quoting
  | quoting, [] => ([], quoting)
  | quoting, c :: rest =>
    if quoting == gap && c == '#' then ([], plain)
    else
      let tail := scan (quoting.next c) rest
      (c :: tail.1, tail.2)

end Quoting

/-- Lines joined where one ends within quotes. The first argument is the part of a line read so far.
A line is nothing if it is no text, or if the file ends within it. -/
def joinLines : List Char → Quoting → List (Option (List Char)) → List (Option (List Char))
  | soFar, _, [] => if soFar.isEmpty then [] else [none]
  | _, _, none :: _ => [none]
  | soFar, quoting, some line :: rest =>
    if (dropBlankStart (soFar ++ line)).head? == some '#' then
      some [] :: joinLines [] .plain rest
    else
      let scanned := quoting.scan line
      if scanned.2 == .plain then some (soFar ++ scanned.1) :: joinLines [] .plain rest
      else joinLines (soFar ++ scanned.1) scanned.2 rest

/-- The characters of the names of variables. -/
def isNameChar (c : Char) : Bool :=
  c.isAlphanum || c == '_' || c == '.'

/-- A name in front of a text, and what follows it. -/
def readName (cs : List Char) : Option (String × List Char) :=
  match cs with
  | c :: _ =>
    if c.isAlpha || c == '_' then
      some (String.ofList (cs.takeWhile isNameChar), cs.dropWhile isNameChar)
    else none
  | [] => none

/-- What follows an equals sign, blanks around it excepted. -/
def afterEquals (cs : List Char) : Option (List Char) :=
  match dropBlankStart cs with
  | '=' :: rest => some (dropBlankStart rest)
  | _ => none

/-- Where a value stands. -/
inductive Place where
  | plain
  | double
  | single
  /-- After the end of the value. -/
  | after
  /-- In the name of a variable to be used, with the name so far. -/
  | name (inQuotes : Bool) (soFar : List Char)
  /-- In the name of a variable in braces. -/
  | braces (inQuotes : Bool) (soFar : List Char)

namespace Place

/-- The place around the name of a variable. -/
def around (inQuotes : Bool) : Place :=
  if inQuotes then double else plain

/-- The value from a place on. Without quotes and in double quotes it may use other variables. -/
def read (lookup : String → String) : Place → List Char → Option (List Char)
  | plain, [] => some []
  | after, [] => some []
  | double, [] => none
  | single, [] => none
  | name inQuotes soFar, [] => if inQuotes then none else some (lookup (String.ofList soFar)).toList
  | braces .., [] => none
  | after, c :: rest =>
    if c == ' ' || c == '\t' then read lookup after rest
    else if c == '#' then some []
    else none
  | single, c :: rest =>
    if c == '\'' then read lookup plain rest else (read lookup single rest).map (c :: ·)
  | name inQuotes soFar, c :: rest =>
    if isAlphanumeric c then read lookup (name inQuotes (soFar ++ [c])) rest
    else if c == '{' && soFar.isEmpty then read lookup (braces inQuotes []) rest
    else
      let value := (lookup (String.ofList soFar)).toList
      if c == '$' then (read lookup (name inQuotes []) rest).map (value ++ ·)
      else (read lookup (around inQuotes) rest).map fun tail => value ++ c :: tail
  | braces inQuotes soFar, c :: rest =>
    if c == '}' then
      (read lookup (around inQuotes) rest).map ((lookup (String.ofList soFar)).toList ++ ·)
    else read lookup (braces inQuotes (soFar ++ [c])) rest
  | double, '\\' :: c :: rest =>
    if c == 'n' then (read lookup double rest).map ('\n' :: ·)
    else if "\\'\"$ ".toList.contains c then (read lookup double rest).map (c :: ·)
    else none
  | plain, '\\' :: c :: rest =>
    if c == 'n' then (read lookup plain rest).map ('\n' :: ·)
    else if "\\'\"$ ".toList.contains c then (read lookup plain rest).map (c :: ·)
    else none
  | double, c :: rest =>
    if c == '\\' then none
    else if c == '$' then read lookup (name true []) rest
    else if c == '"' then read lookup plain rest
    else (read lookup double rest).map (c :: ·)
  | plain, c :: rest =>
    if c == '\\' then some []
    else if c == '$' then read lookup (name false []) rest
    else if c == '\'' then read lookup single rest
    else if c == '"' then read lookup double rest
    else if c == ' ' || c == '\t' then read lookup after rest
    else (read lookup plain rest).map (c :: ·)

end Place

/-- The name and the text of the value in a line that sets a variable. The word `export` may stand
in front. -/
def readAssignment (cs : List Char) : Option (String × List Char) := do
  let (name, rest) ← readName cs
  match afterEquals rest with
  | some text => some (name, text)
  | none =>
    if name == "export" then
      let (name, rest) ← readName (dropBlankStart rest)
      let text ← afterEquals rest
      some (name, text)
    else none

/-- What a line does. -/
inductive Line where
  | nothing
  | assign (name value : String)
  | invalid

/-- The meaning of a line under the variables that are known already. -/
def readLine (lookup : String → String) (line : List Char) : Line :=
  match dropBlankStart (dropBlankEnd line) with
  | [] => .nothing
  | '#' :: _ => .nothing
  | cs =>
    match readAssignment cs with
    | none => .invalid
    | some (name, text) =>
      if text.isEmpty || text.head? == some '#' then .assign name ""
      else
        match Place.read lookup .plain text with
        | some value => .assign name (String.ofList value)
        | none => .invalid

/-- The value of a variable: that of the surroundings, or else the first one set. -/
def find? (outside : String → Option String) (set : List (String × String)) (name : String) :
    Option String :=
  (outside name).or (set.lookup name)

/-- The variables that lines set, added to those that were set before. -/
def readLines (outside : String → Option String) (set : List (String × String)) :
    List (Option (List Char)) → List (String × String)
  | [] => set
  | none :: _ => set
  | some line :: rest =>
    match readLine (fun name => (find? outside set name).getD "") line with
    | .nothing => readLines outside set rest
    | .assign name value => readLines outside (set ++ [(name, value)]) rest
    | .invalid => set

/-- The lines of a file, each with the line feed at its end. -/
def lines : List UInt8 → List (List UInt8)
  | [] => []
  | b :: rest =>
    if b == 0x0A then [b] :: lines rest
    else
      match lines rest with
      | [] => [[b]]
      | line :: others => (b :: line) :: others

/-- A file without the byte order mark that may open it. -/
def dropMark : List UInt8 → List UInt8
  | 0xEF :: 0xBB :: 0xBF :: rest => rest
  | data => data

/-- The variables that a file sets, one `NAME=value` a line. It is read up to its first line that
sets nothing or is no text. -/
def ofBytes (outside : String → Option String) (data : List UInt8) : List (String × String) :=
  readLines outside [] (joinLines [] .plain ((lines (dropMark data)).map Utf8.decode?))

end AddressIntake.Variables
