import AddressIntake.Json.Basic
import AddressIntake.Json.Numeral

namespace AddressIntake.Json

/-- A value of a text, or as much of one as there is. Every flaw is kept in its place, since a
reader can have found what it looks for, or something else, before it gets there. -/
inductive Node where
  | null
  | bool (b : Bool)
  | int (n : Int)
  | real (numeral : String)
  | str (s : String)
  /-- A text in which one half of a surrogate pair stands without the other. -/
  | loose
  /-- A list, and whether it ends as it should. -/
  | arr (items : List Node) (closed : Bool)
  /-- An object, and whether it ends as it should. A loose key is nothing. -/
  | obj (entries : List (Option String × Node)) (closed : Bool)
  /-- Something that is no value. -/
  | broken
  deriving Inhabited

/-- Why a text does not hold what is asked for. -/
inductive Fault where
  /-- The text is no JSON as far as it is read. -/
  | malformed
  /-- The text holds something else. -/
  | mismatch
  deriving DecidableEq, Repr

mutual

/-- A value as it is met in a text without flaws. -/
def node : Json → Node
  | .null => .null
  | .bool b => .bool b
  | .int n => .int n
  | .real numeral => .real numeral
  | .str s => .str s
  | .arr items => .arr (nodes items) true
  | .obj entries => .obj (entryNodes entries) true

/-- The elements of a list as they are met. -/
def nodes : List Json → List Node
  | [] => []
  | item :: rest => node item :: nodes rest

/-- The entries of an object as they are met. -/
def entryNodes : List (String × Json) → List (Option String × Node)
  | [] => []
  | (key, value) :: rest => (some key, node value) :: entryNodes rest

end

namespace Node

mutual

/-- The value without any flaw. -/
def value? : Node → Option Json
  | null => some .null
  | bool b => some (.bool b)
  | int n => some (.int n)
  | real numeral => some (.real numeral)
  | str s => some (.str s)
  | arr items true => (values? items).map .arr
  | obj entries true => (entryValues? entries).map .obj
  | _ => none

/-- The elements of a list without any flaw. -/
def values? : List Node → Option (List Json)
  | [] => some []
  | item :: rest => do
    let first ← value? item
    let others ← values? rest
    some (first :: others)

/-- The entries of an object without any flaw. -/
def entryValues? : List (Option String × Node) → Option (List (String × Json))
  | [] => some []
  | (some key, value) :: rest => do
    let first ← value? value
    let others ← entryValues? rest
    some ((key, first) :: others)
  | (none, _) :: _ => none

end

mutual

/-- Whether a value can be passed over: it has to end as it should, but neither the range of its
numerals nor the halves of surrogate pairs in it are looked at. -/
def isPassable : Node → Bool
  | arr items closed => allPassable items && closed
  | obj entries closed => allEntriesPassable entries && closed
  | broken => false
  | _ => true

/-- Whether every element of a list can be passed over. -/
def allPassable : List Node → Bool
  | [] => true
  | item :: rest => isPassable item && allPassable rest

/-- Whether every entry of an object can be passed over. -/
def allEntriesPassable : List (Option String × Node) → Bool
  | [] => true
  | (_, value) :: rest => isPassable value && allEntriesPassable rest

end

mutual

/-- Whether a value can be kept for later: it has no flaw, its numerals are in range, and it is
nested no deeper than the limit. -/
def isKeepable (limit : Nat) : Node → Bool
  | real numeral => isInRange numeral
  | arr items closed => limit != 0 && allKeepable (limit - 1) items && closed
  | obj entries closed => limit != 0 && allEntriesKeepable (limit - 1) entries && closed
  | loose | broken => false
  | _ => true

/-- Whether every element of a list can be kept. -/
def allKeepable (limit : Nat) : List Node → Bool
  | [] => true
  | item :: rest => isKeepable limit item && allKeepable limit rest

/-- Whether every entry of an object can be kept. -/
def allEntriesKeepable (limit : Nat) : List (Option String × Node) → Bool
  | [] => true
  | (key, value) :: rest =>
    key.isSome && isKeepable limit value && allEntriesKeepable limit rest

end

/-- The fault of meeting a value where another kind of value is asked for. Containers are recognized
by their first mark, all else is read first. -/
def unexpected : Node → Fault
  | real numeral => if isInRange numeral then .mismatch else .malformed
  | loose | broken => .malformed
  | _ => .mismatch

end Node

end AddressIntake.Json
