import AddressIntake.Json.Node

namespace AddressIntake.Json

/-- A way to take values of a type out of JSON. -/
abbrev Decoder (α : Type) := Node → Except Fault α

/-- The value that is taken out of a JSON value. -/
def as? {α : Type} (read : Decoder α) (json : Json) : Option α :=
  (read json.node).toOption

namespace Decoder

variable {α β : Type}

/-- The value if it passes a test, and a mismatch otherwise. -/
def ofOption : Option α → Except Fault α
  | some a => .ok a
  | none => .error .mismatch

/-- The value that a part of a value determines, if there is one. -/
def filterMap (read : Decoder α) (f : α → Option β) : Decoder β :=
  fun node => (read node).bind fun a => ofOption (f a)

/-- The value of a text. -/
def string : Decoder String
  | .str s => .ok s
  | node => .error node.unexpected

/-- The value of a truth value. -/
def bool : Decoder Bool
  | .bool b => .ok b
  | node => .error node.unexpected

/-- The value of a whole number from zero to the limit. -/
def unsigned (limit : Nat) : Decoder Nat
  | .int (.ofNat n) => if n ≤ limit then .ok n else .error .mismatch
  | node => .error node.unexpected

/-- The value of a text of one character. -/
def char : Decoder Char :=
  filterMap string fun s =>
    match s.toList with
    | [c] => some c
    | _ => none

/-- The elements of a list, each read on its own. -/
def list (read : Decoder α) : Decoder (List α)
  | .arr items closed => do
    let found ← items.mapM read
    if closed then return found else throw .malformed
  | node => .error node.unexpected

/-- Nothing for null, and the value otherwise. -/
def nullable (read : Decoder α) : Decoder (Option α)
  | .null => .ok none
  | node => (read node).map some

/-- The choice with a given tag, written alone or as the only key of an object holding null. -/
def choice (ofTag? : String → Option α) : Decoder α
  | .str s => ofOption (ofTag? s)
  | .obj ((some key, value) :: rest) closed => do
    let found ← ofOption (ofTag? key)
    match value with
    | .null => if rest.isEmpty && closed then return found else throw .malformed
    | other => throw other.unexpected
  | _ => .error .malformed

/-- The entries of an object with values of one kind. -/
def entries (read : Decoder α) : Decoder (List (String × α))
  | .obj found closed => do
    let known ← found.mapM fun entry =>
      match entry.1 with
      | some key => (read entry.2).map fun value => (key, value)
      | none => .error .malformed
    if closed then return known else throw .malformed
  | node => .error node.unexpected

end Decoder

/-- A member of a record: its name, whether a list of values may end before it, and what makes its
value acceptable. -/
structure Member where
  name : String
  mayEnd : Bool
  check : Node → Except Fault Unit

/-- A way to take records out of JSON: their members in order, and the record that the values found
under the names make up. In JSON a record is an object that gives each name at most once and may
hold further entries, or a list of the values in order. Of several faults the one that comes first
in the text counts. -/
structure Record (α : Type) where
  members : List Member
  build : (String → Option Node) → Except Fault α

namespace Record

variable {α β : Type}

instance : Applicative Record where
  pure a := ⟨[], fun _ => .ok a⟩
  seq f a := ⟨f.members ++ (a ()).members, fun found => do
    let g ← f.build found
    let x ← (a ()).build found
    return g x⟩

/-- Whether a value can be read. -/
def checkOf (read : Decoder α) (node : Node) : Except Fault Unit :=
  (read node).map fun _ => ()

/-- A member that has to be there. -/
def required (name : String) (read : Decoder α) : Record α :=
  ⟨[⟨name, false, checkOf read⟩], fun found =>
    match found name with
    | some node => read node
    | none => .error .mismatch⟩

/-- A member that may be null, and may be missing among named ones. -/
def optional (name : String) (read : Decoder α) : Record (Option α) :=
  ⟨[⟨name, false, checkOf (Decoder.nullable read)⟩], fun found =>
    match found name with
    | some node => Decoder.nullable read node
    | none => .ok none⟩

/-- A member with a default for when it is missing. -/
def withDefault (name : String) (default : α) (read : Decoder α) : Record α :=
  ⟨[⟨name, true, checkOf read⟩], fun found =>
    match found name with
    | some node => read node
    | none => .ok default⟩

/-- Checks the entries of an object in their order. The names that were met before may not be met
again; entries of other names have to pass a test of their own. -/
def checkEntries (members : List Member) (passes : Node → Bool) :
    List String → List (Option String × Node) → Except Fault Unit
  | _, [] => .ok ()
  | _, (none, _) :: _ => .error .malformed
  | met, (some key, value) :: rest =>
    match members.find? (·.name == key) with
    | some member =>
      if met.contains key then .error .mismatch
      else do
        member.check value
        checkEntries members passes (key :: met) rest
    | none => if passes value then checkEntries members passes met rest else .error .malformed

/-- Checks the elements of a list as the values of members in their order. -/
def checkItems (closed : Bool) : List Member → List Node → Except Fault Unit
  | [], items => if items.isEmpty && closed then .ok () else .error .malformed
  | member :: members, [] =>
    if !closed then .error .malformed
    else if member.mayEnd then checkItems closed members []
    else .error .mismatch
  | member :: members, item :: items => do
    member.check item
    checkItems closed members items

/-- The record in an object. -/
def ofEntries (record : Record α) (passes : Node → Bool)
    (entries : List (Option String × Node)) (closed : Bool) : Except Fault α := do
  checkEntries record.members passes [] entries
  if closed then record.build fun name => entries.lookup (some name) else throw .malformed

/-- The record in an object whose further entries are passed over, or in a list. -/
def decoder (record : Record α) : Decoder α
  | .obj entries closed => record.ofEntries Node.isPassable entries closed
  | .arr items closed => do
    checkItems closed record.members items
    record.build fun name => ((record.members.map (·.name)).zip items).lookup name
  | node => .error node.unexpected

/-- How deep the further entries of an object may be nested that are kept until it ends. -/
def keptDepth : Nat := 125

/-- The record in an object whose further entries are kept until it ends. -/
def openDecoder (record : Record α) : Decoder α
  | .obj entries closed => record.ofEntries (Node.isKeepable keptDepth) entries closed
  | node => .error node.unexpected

end Record

end AddressIntake.Json
