namespace AddressIntake.Delimited

/-- Whether a cell has to be quoted: it holds a comma, a quote or a line end. -/
def needsQuotes (cell : List Char) : Bool :=
  cell.any fun c => c == ',' || c == '"' || c == '\n' || c == '\r'

/-- A cell in quotes, with each quote written twice. -/
def quoteCell (cell : List Char) : List Char :=
  '"' :: (cell.flatMap (fun c => if c == '"' then ['"', '"'] else [c]) ++ ['"'])

/-- A cell, quoted where it has to be. -/
def writeCell (cell : List Char) : List Char :=
  if needsQuotes cell then quoteCell cell else cell

/-- The cells of a record. A record whose text would be empty is written as a quoted empty cell, as
it would otherwise be read as an empty line. -/
def writeCells (cells : List (List Char)) : List Char :=
  match [','].intercalate (cells.map writeCell) with
  | [] => ['"', '"']
  | text => text

/-- A record with its line end. -/
def writeRecord (cells : List String) : List Char :=
  writeCells (cells.map String.toList) ++ ['\n']

/-- The records of a text, if each is as wide as the first; otherwise the width of the first one
that is not. -/
def write (width : Nat) : List (List String) → Except Nat (List Char)
  | [] => .ok []
  | record :: rest =>
    if record.length == width then do
      let text ← write width rest
      return writeRecord record ++ text
    else .error record.length

end AddressIntake.Delimited
