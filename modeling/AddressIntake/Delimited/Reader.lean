import AddressIntake.Text.Blank
import AddressIntake.Text.Encoding

namespace AddressIntake.Delimited

open Text

/-- A cell under construction, latest character first. -/
abbrev OpenCell := List Char

/-- Whether a character ends a line. -/
def isLineEnd (c : Char) : Bool :=
  c == '\n' || c == '\r'

/-- Where the reader stands: between two records, or in a record with some finished cells, latest
first. -/
inductive Place where
  /-- Between records, where line ends are passed over. -/
  | between
  /-- At the start of a cell. -/
  | cellStart (done : List (List Char))
  /-- In a cell without quotes, or after the closing quote of one. -/
  | plain (done : List (List Char)) (cell : OpenCell)
  /-- Inside quotes. -/
  | quoted (done : List (List Char)) (cell : OpenCell)
  /-- After a quote that closes the cell unless another one follows. -/
  | quote (done : List (List Char)) (cell : OpenCell)
  deriving DecidableEq

namespace Place

/-- The finished cells and the open one as a record. -/
def record (done : List (List Char)) (cell : OpenCell) : List (List Char) :=
  (cell.reverse :: done).reverse

/-- The effect of a character at the start of a cell. -/
def open? (sep : Char) (done : List (List Char)) (c : Char) : Place :=
  if c == '"' then .quoted done []
  else if c == sep then .cellStart ([] :: done)
  else .plain done [c]

/-- The effect of a character after the text of a cell: the record that it completes, if it does, and
the new place. -/
def proceed (sep : Char) (done : List (List Char)) (cell : OpenCell) (c : Char) :
    Option (List (List Char)) × Place :=
  if c == sep then (none, .cellStart (cell.reverse :: done))
  else if isLineEnd c then (some (record done cell), .between)
  else (none, .plain done (c :: cell))

/-- The effect of one character: the record that it completes, if it does, and the new place. -/
def next (sep : Char) : Place → Char → Option (List (List Char)) × Place
  | .between, c => if isLineEnd c then (none, .between) else (none, open? sep [] c)
  | .cellStart done, c =>
    if isLineEnd c then proceed sep done [] c else (none, open? sep done c)
  | .plain done cell, c => proceed sep done cell c
  | .quoted done cell, c =>
    if c == '"' then (none, .quote done cell) else (none, .quoted done (c :: cell))
  | .quote done cell, c =>
    if c == '"' then (none, .quoted done (c :: cell)) else proceed sep done cell c

/-- The record that the end of the text completes. -/
def finish : Place → Option (List (List Char))
  | .between => none
  | .cellStart done => some (record done [])
  | .plain done cell => some (record done cell)
  | .quoted done cell => some (record done cell)
  | .quote done cell => some (record done cell)

end Place

/-- A record with the characters that were taken for it: the line ends that were passed over, its
text, and the character at which it ends. -/
structure Taken where
  span : List Char
  cells : List (List Char)

/-- The records of a text from a place on. The second argument holds the characters taken so far for
the next record, latest first. -/
def recordsFrom (sep : Char) (place : Place) (span : List Char) : List Char → List Taken
  | [] => place.finish.toList.map fun cells => ⟨span.reverse, cells⟩
  | c :: rest =>
    match place.next sep c with
    | (some cells, after) => ⟨(c :: span).reverse, cells⟩ :: recordsFrom sep after [] rest
    | (none, after) => recordsFrom sep after (c :: span) rest

/-- The records of a text. A byte order mark that opens it is taken for the first record, but it is
not part of it. -/
def records (sep : Char) : List Char → List Taken
  | [] => []
  | c :: rest =>
    if c == Encoding.byteOrderMark then recordsFrom sep .between [c] rest
    else recordsFrom sep .between [] (c :: rest)

/-- How many lines a run of line ends stands for. A line feed belongs to the carriage return before
it. -/
def lineCount : List Char → Nat
  | '\r' :: '\n' :: rest => lineCount rest + 1
  | _ :: rest => lineCount rest + 1
  | [] => 0

/-- A span without what belongs to the record before it: the line feed in front, if that record ended
at a carriage return. -/
def ownSpan : Bool → List Char → List Char
  | true, '\n' :: rest => rest
  | _, span => span

/-- How many empty lines were passed over at the start of a span. -/
def skippedLines (afterReturn : Bool) (span : List Char) : Nat :=
  lineCount ((ownSpan afterReturn span).takeWhile isLineEnd)

/-- The rows of records: each record after as many empty rows as empty lines were passed over. -/
def rowsOf (afterReturn : Bool) : List Taken → List (List (List Char))
  | [] => []
  | taken :: rest =>
    List.replicate (skippedLines afterReturn taken.span) [] ++
      taken.cells :: rowsOf (taken.span.getLast? == some '\r') rest

/-- A cell without white space at its ends. -/
def cellText (cs : List Char) : String :=
  String.ofList (dropBlankEnd (dropBlankStart cs))

/-- The rows of a delimited text with trimmed cells. An empty line before a record is an empty row,
and a record has at least one cell. -/
def read (sep : Char) (cs : List Char) : List (List String) :=
  (rowsOf false (records sep cs)).map (·.map cellText)

end AddressIntake.Delimited
