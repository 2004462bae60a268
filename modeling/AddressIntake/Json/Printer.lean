import AddressIntake.Json.Basic

namespace AddressIntake.Json

/-- The lower-case hexadecimal digit of a number below sixteen. -/
def hexDigit (n : Nat) : Char :=
  if n < 10 then Char.ofNat ('0'.toNat + n) else Char.ofNat ('a'.toNat + (n - 10))

/-- A character inside quotes. Quotes, backslashes and control characters are escaped. -/
def escapeChar (c : Char) : List Char :=
  match c with
  | '"' => ['\\', '"']
  | '\\' => ['\\', '\\']
  | '\x08' => ['\\', 'b']
  | '\x0C' => ['\\', 'f']
  | '\n' => ['\\', 'n']
  | '\r' => ['\\', 'r']
  | '\t' => ['\\', 't']
  | c =>
    if c.toNat < 0x20 then
      ['\\', 'u', '0', '0', hexDigit (c.toNat / 16), hexDigit (c.toNat % 16)]
    else [c]

/-- A text in quotes. -/
def quote (s : String) : List Char :=
  '"' :: (s.toList.flatMap escapeChar ++ ['"'])

/-- An integer in decimal. -/
def decimal (n : Int) : List Char :=
  if n < 0 then '-' :: Nat.toDigits 10 n.natAbs else Nat.toDigits 10 n.natAbs

/-- The layout of a container: what stands before its first part, between two parts, before its
end, and after a key. -/
structure Layout where
  first : Nat → List Char
  between : Nat → List Char
  last : Nat → List Char
  colon : List Char

/-- No blanks at all. -/
def Layout.compact : Layout :=
  ⟨fun _ => [], fun _ => [','], fun _ => [], [':']⟩

/-- A new line at a level of nesting. -/
def newline (level : Nat) : List Char :=
  '\n' :: List.replicate (2 * level) ' '

/-- One part a line. -/
def Layout.indented : Layout :=
  ⟨fun level => newline (level + 1), fun level => ',' :: newline (level + 1), newline, [':', ' ']⟩

mutual

/-- The text of a value at a level of nesting. -/
def print (layout : Layout) (level : Nat) : Json → List Char
  | .null => ['n', 'u', 'l', 'l']
  | .bool true => ['t', 'r', 'u', 'e']
  | .bool false => ['f', 'a', 'l', 's', 'e']
  | .int n => decimal n
  | .real numeral => numeral.toList
  | .str s => quote s
  | .arr [] => ['[', ']']
  | .arr (item :: rest) =>
    '[' :: (layout.first level ++ print layout (level + 1) item ++
      printItems layout level rest ++ layout.last level ++ [']'])
  | .obj [] => ['{', '}']
  | .obj ((key, value) :: rest) =>
    '{' :: (layout.first level ++ quote key ++ layout.colon ++ print layout (level + 1) value ++
      printEntries layout level rest ++ layout.last level ++ ['}'])

/-- The elements of a list after its first one. -/
def printItems (layout : Layout) (level : Nat) : List Json → List Char
  | [] => []
  | item :: rest =>
    layout.between level ++ print layout (level + 1) item ++ printItems layout level rest

/-- The entries of an object after its first one. -/
def printEntries (layout : Layout) (level : Nat) : List (String × Json) → List Char
  | [] => []
  | (key, value) :: rest =>
    layout.between level ++ quote key ++ layout.colon ++ print layout (level + 1) value ++
      printEntries layout level rest

end

/-- The text of a value without any blanks. -/
def compact (json : Json) : List Char :=
  print .compact 0 json

/-- The text of a value with one part a line. -/
def indented (json : Json) : List Char :=
  print .indented 0 json

end AddressIntake.Json
