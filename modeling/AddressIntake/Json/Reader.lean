import AddressIntake.Json.Decoder
import AddressIntake.Text.Encoding

namespace AddressIntake.Json

open Text

/-- The smallest pieces of JSON text. -/
inductive Token where
  | openList
  | closeList
  | openObject
  | closeObject
  | comma
  | colon
  | null
  | bool (b : Bool)
  | int (n : Int)
  | real (numeral : String)
  | str (s : String)
  /-- A text in which one half of a surrogate pair stands without the other. -/
  | loose
  /-- The rest of a text that goes on with no token. -/
  | junk
  deriving DecidableEq

/-- The four blank characters of JSON. -/
def isGap (c : Char) : Bool :=
  c == ' ' || c == '\n' || c == '\t' || c == '\r'

/-- The value of a hexadecimal digit. -/
def hexValue? (c : Char) : Option Nat :=
  if '0' ≤ c && c ≤ '9' then some (c.toNat - '0'.toNat)
  else if 'a' ≤ c && c ≤ 'f' then some (c.toNat - 'a'.toNat + 10)
  else if 'A' ≤ c && c ≤ 'F' then some (c.toNat - 'A'.toNat + 10)
  else none

/-- The value of four hexadecimal digits. -/
def hexUnit? (a b c d : Char) : Option Nat := do
  let a ← hexValue? a
  let b ← hexValue? b
  let c ← hexValue? c
  let d ← hexValue? d
  some (((a * 16 + b) * 16 + c) * 16 + d)

/-- The character of a one-letter escape. -/
def escaped? (c : Char) : Option Char :=
  match c with
  | '"' => some '"'
  | '\\' => some '\\'
  | '/' => some '/'
  | 'b' => some '\x08'
  | 'f' => some '\x0C'
  | 'n' => some '\n'
  | 'r' => some '\r'
  | 't' => some '\t'
  | _ => none

/-- A piece of a text in quotes: a character, or the number in a numeric escape. -/
inductive Piece where
  | char (c : Char)
  | unit (n : Nat)
  deriving DecidableEq

/-- The pieces up to the closing quote, and what follows it. -/
def readPieces : List Char → Option (List Piece × List Char)
  | [] => none
  | '"' :: rest => some ([], rest)
  | '\\' :: 'u' :: a :: b :: c :: d :: rest =>
    match hexUnit? a b c d with
    | none => none
    | some n => (readPieces rest).map fun r => (.unit n :: r.1, r.2)
  | '\\' :: e :: rest =>
    match escaped? e with
    | none => none
    | some c => (readPieces rest).map fun r => (.char c :: r.1, r.2)
  | c :: rest =>
    if c == '\\' || c.toNat < 0x20 then none
    else (readPieces rest).map fun r => (.char c :: r.1, r.2)

/-- The characters that pieces stand for. A number is a character or the first half of a surrogate
pair, whose second half has to be the next piece. -/
def joinPieces : List Piece → Option (List Char)
  | [] => some []
  | .char c :: rest => (joinPieces rest).map (c :: ·)
  | .unit n :: rest =>
    if Encoding.isHighSurrogate n then
      match rest with
      | .unit low :: rest' =>
        if Encoding.isLowSurrogate low then
          (joinPieces rest').map (Encoding.surrogatePair n low :: ·)
        else none
      | _ => none
    else if Encoding.isLowSurrogate n then none
    else (joinPieces rest).map (Char.ofNat n :: ·)

/-- The token of a text in quotes. -/
def stringToken (pieces : List Piece) : Token :=
  match joinPieces pieces with
  | some cs => .str (String.ofList cs)
  | none => .loose

/-- A whole number within the 64-bit words, as an integer; minus zero is not one. -/
def wordToken (negative : Bool) (digits : List Char) : Token :=
  let n := ofDigits digits
  if negative then
    if n == 0 || Number.maxWord64 / 2 + 1 < n then .real (String.ofList ('-' :: digits))
    else .int (-(n : Int))
  else if n ≤ Number.maxWord64 then .int n
  else .real (String.ofList digits)

/-- The token of a numeral. -/
def numeralToken (numeral : List Char) : Token :=
  let digits := afterMinus numeral
  if digits.all isAsciiDigit then wordToken (numeral.head? == some '-') digits
  else .real (String.ofList numeral)

/-- The token of a punctuation mark. -/
def mark? (c : Char) : Option Token :=
  match c with
  | '[' => some .openList
  | ']' => some .closeList
  | '{' => some .openObject
  | '}' => some .closeObject
  | ',' => some .comma
  | ':' => some .colon
  | _ => none

/-- The token in front of a text that does not start with a blank, and what follows it. -/
def readToken : List Char → Option (Token × List Char)
  | '"' :: rest => (readPieces rest).map fun r => (stringToken r.1, r.2)
  | 'n' :: 'u' :: 'l' :: 'l' :: rest => some (.null, rest)
  | 't' :: 'r' :: 'u' :: 'e' :: rest => some (.bool true, rest)
  | 'f' :: 'a' :: 'l' :: 's' :: 'e' :: rest => some (.bool false, rest)
  | cs =>
    match cs with
    | [] => none
    | c :: rest =>
      match mark? c with
      | some token => some (token, rest)
      | none =>
        (afterNumeral? cs).map fun after => (numeralToken (numeralOf cs), after)

theorem length_readPieces_lt {cs : List Char} {found : List Piece × List Char}
    (hread : readPieces cs = some found) : found.2.length < cs.length := by
  fun_induction readPieces cs generalizing found with
  | case1 => cases hread
  | case2 rest =>
    cases hread
    simp
  | case3 => cases hread
  | case4 a b c d rest n hhex ih =>
    obtain ⟨tail, htail, rfl⟩ := Option.map_eq_some_iff.1 hread
    have := ih htail
    simp only [List.length_cons]
    omega
  | case5 => cases hread
  | case6 e rest hshort c hesc ih =>
    obtain ⟨tail, htail, rfl⟩ := Option.map_eq_some_iff.1 hread
    have := ih htail
    simp only [List.length_cons]
    omega
  | case7 => cases hread
  | case8 c rest hquote hnumeric hescape hplain ih =>
    obtain ⟨tail, htail, rfl⟩ := Option.map_eq_some_iff.1 hread
    have := ih htail
    simp only [List.length_cons]
    omega

theorem length_readToken_lt {cs : List Char} {found : Token × List Char}
    (hread : readToken cs = some found) : found.2.length < cs.length := by
  unfold readToken at hread
  split at hread
  · obtain ⟨tail, htail, rfl⟩ := Option.map_eq_some_iff.1 hread
    have := length_readPieces_lt htail
    simp only [List.length_cons]
    omega
  · cases hread
    simp only [List.length_cons]
    omega
  · cases hread
    simp only [List.length_cons]
    omega
  · cases hread
    simp only [List.length_cons]
    omega
  · split at hread
    · cases hread
    · split at hread
      · cases hread
        simp
      · obtain ⟨after, hafter, rfl⟩ := Option.map_eq_some_iff.1 hread
        exact length_afterNumeral?_lt hafter

/-- The tokens of a text. -/
def tokens : List Char → List Token
  | [] => []
  | c :: rest =>
    if isGap c then tokens rest
    else
      match _hread : readToken (c :: rest) with
      | none => [.junk]
      | some (token, after) => token :: tokens after
termination_by cs => cs.length
decreasing_by
  · simp
  · exact length_readToken_lt _hread

/-- A container that is still open, with its finished parts, latest first. An object also holds the
key of the part that is being read. -/
inductive Frame where
  | items (done : List Node)
  | entries (done : List (Option String × Node)) (key : Option String)

/-- What may come next, with the open containers, innermost first. -/
inductive Expect where
  /-- A value. -/
  | value (stack : List Frame)
  /-- A value or the end of the list just opened. -/
  | firstItem (stack : List Frame)
  /-- A key or the end of the object just opened. -/
  | firstKey (stack : List Frame)
  /-- A key after the given entries. -/
  | nextKey (done : List (Option String × Node)) (stack : List Frame)
  /-- The colon after a key. -/
  | colon (done : List (Option String × Node)) (key : Option String) (stack : List Frame)
  /-- What may follow a finished value. -/
  | after (value : Node) (stack : List Frame)

/-- The effect of a token where a value may start. -/
def Expect.start (stack : List Frame) : Token → Option Expect
  | .openList => some (.firstItem stack)
  | .openObject => some (.firstKey stack)
  | .null => some (.after .null stack)
  | .bool b => some (.after (.bool b) stack)
  | .int n => some (.after (.int n) stack)
  | .real numeral => some (.after (.real numeral) stack)
  | .str s => some (.after (.str s) stack)
  | .loose => some (.after .loose stack)
  | _ => none

/-- The effect of one token. -/
def Expect.step : Expect → Token → Option Expect
  | .value stack, token => start stack token
  | .firstItem stack, .closeList => some (.after (.arr [] true) stack)
  | .firstItem stack, token => start (.items [] :: stack) token
  | .firstKey stack, .closeObject => some (.after (.obj [] true) stack)
  | .firstKey stack, .str key => some (.colon [] (some key) stack)
  | .firstKey stack, .loose => some (.colon [] none stack)
  | .nextKey done stack, .str key => some (.colon done (some key) stack)
  | .nextKey done stack, .loose => some (.colon done none stack)
  | .colon done key stack, .colon => some (.value (.entries done key :: stack))
  | .after v (.items done :: stack), .comma => some (.value (.items (v :: done) :: stack))
  | .after v (.items done :: stack), .closeList =>
    some (.after (.arr (v :: done).reverse true) stack)
  | .after v (.entries done key :: stack), .comma => some (.nextKey ((key, v) :: done) stack)
  | .after v (.entries done key :: stack), .closeObject =>
    some (.after (.obj ((key, v) :: done).reverse true) stack)
  | _, _ => none

/-- A value within the open containers around it, which do not end as they should. -/
def enclose : Node → List Frame → Node
  | value, [] => value
  | value, .items done :: stack => enclose (.arr (value :: done).reverse false) stack
  | value, .entries done key :: stack =>
    enclose (.obj ((key, value) :: done).reverse false) stack

/-- What has been read when the reading ends. -/
def Expect.node : Expect → Node
  | .value stack => enclose .broken stack
  | .firstItem stack => enclose (.arr [] false) stack
  | .firstKey stack => enclose (.obj [] false) stack
  | .nextKey done stack => enclose (.obj done.reverse false) stack
  | .colon done key stack => enclose (.obj ((key, .broken) :: done).reverse false) stack
  | .after v stack => enclose v stack

/-- What a text holds: the value in front, and whether there is nothing after it. -/
structure Content where
  node : Node
  ended : Bool

/-- The effect of tokens one after the other. The first one out of place ends the reading, and what
was read up to there is kept. -/
def Expect.run : Expect → List Token → Content
  | expect, [] => ⟨expect.node, true⟩
  | expect, token :: rest =>
    match expect.step token with
    | some next => next.run rest
    | none => ⟨expect.node, false⟩

/-- The content of a text. -/
def Content.ofText (cs : List Char) : Content :=
  Expect.run (.value []) (tokens cs)

/-- The value of a JSON text. -/
def parse? (cs : List Char) : Option Json :=
  let content := Content.ofText cs
  if content.ended then content.node.value? else none

/-- The value that is taken out of a text. What follows it in the text comes last of all. -/
def decode {α : Type} (read : Decoder α) (cs : List Char) : Except Fault α := do
  let content := Content.ofText cs
  let value ← read content.node
  if content.ended then return value else throw .malformed

end AddressIntake.Json
