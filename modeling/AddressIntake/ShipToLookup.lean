import AddressIntake.Address

namespace AddressIntake

/-- The known names with their records, in the order in which they became known. -/
structure ShipToLookup where
  entries : List (String × RecordId)
  deriving DecidableEq

namespace ShipToLookup

/-- The lookup without names. -/
def empty : ShipToLookup := ⟨[]⟩

/-- The record that a name stands for. White space around the name does not count. -/
def resolve? (lookup : ShipToLookup) (name : String) : Option RecordId :=
  lookup.entries.lookup (Text.trim name)

/-- Whether inserting a name would add it: it is not blank and not known yet. -/
def admits (lookup : ShipToLookup) (name : String) : Bool :=
  !Text.isBlank name && (lookup.resolve? name).isNone

/-- The lookup with a name added, unless it is blank or known. -/
def insert (lookup : ShipToLookup) (name : String) (id : RecordId) : ShipToLookup :=
  if lookup.admits name then ⟨lookup.entries ++ [(Text.trim name, id)]⟩ else lookup

/-- How many names are known. -/
def size (lookup : ShipToLookup) : Nat :=
  lookup.entries.length

/-- Whether no name is known. -/
def isEmpty (lookup : ShipToLookup) : Bool :=
  lookup.entries.isEmpty

/-- The lookup with the company name of an address added. -/
def insertAddress (lookup : ShipToLookup) (address : Address) : ShipToLookup :=
  match address.fields.companyName with
  | some name => lookup.insert name address.id
  | none => lookup

/-- The company names of a list of addresses. The first address with a name keeps it. -/
def ofAddresses (addresses : List Address) : ShipToLookup :=
  addresses.foldl insertAddress empty

end ShipToLookup

end AddressIntake
