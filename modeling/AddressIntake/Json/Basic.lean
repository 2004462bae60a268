namespace AddressIntake

/-- A JSON value. Objects keep their entries in order, repeated keys included. A number is a whole
number of a 64-bit word, signed or not, or any other numeral, kept as it was written. -/
inductive Json where
  | null
  | bool (b : Bool)
  | int (n : Int)
  | real (numeral : String)
  | str (s : String)
  | arr (items : List Json)
  | obj (entries : List (String × Json))
  deriving Inhabited

namespace Json

/-- The value of an optional part, null when it is missing. -/
def ofOption {α : Type} (write : α → Json) : Option α → Json
  | none => .null
  | some a => write a

/-- The list of the written elements. -/
def ofList {α : Type} (write : α → Json) (items : List α) : Json :=
  .arr (items.map write)

/-- A whole number. -/
def ofNat (n : Nat) : Json :=
  .int (.ofNat n)

end Json

end AddressIntake
