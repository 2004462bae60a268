import AddressIntake.Number.Binary64
import AddressIntake.Text.Blank

namespace AddressIntake

/-- A cell of a worksheet as it is stored. -/
inductive Cell where
  | absent
  | formatted
  | text (s : String)
  | number (raw : String)
  | formula (result : String)
  | date (raw : String)
  | isoDate (s : String)
  | bool (b : Bool)
  | error (code : String)
  deriving DecidableEq, Repr

/-- The rows of a worksheet. -/
abbrev Worksheet := List (List Cell)

namespace Cell

open Text Number

/-- The error codes that a cell may hold. -/
def errorCodes : List String :=
  ["#DIV/0!", "#N/A", "#NAME?", "#NULL!", "#NUM!", "#REF!", "#VALUE!"]

/-- The text of a number as a user would type it: whole numbers of up to fifteen digits have
no sign of zero and no fraction. -/
def numberText (x : Binary64) : String :=
  match x.whole? with
  | some n => if n.natAbs < 1000000000000000 then toString n else x.toText
  | none => x.toText

/-- The text of a stored numeral, or the value itself without white space at its ends if it is
none. -/
def storedText (write : Binary64 → String) (raw : String) : String :=
  match Binary64.read? raw with
  | some x => write x
  | none => trim raw

/-- Whether a cell counts when the used part of the worksheet is determined. -/
def isUsed : Cell → Bool
  | absent | formatted => false
  | _ => true

/-- The text that a cell shows, or the error code that it should not hold. -/
def shown : Cell → Except String String
  | absent | formatted => .ok ""
  | text s => .ok (trim s)
  | number raw => .ok (storedText numberText raw)
  | formula result => .ok (storedText numberText result)
  | date raw => .ok (storedText Binary64.toText raw)
  | isoDate s => .ok (trim s)
  | bool b => .ok (if b then "true" else "false")
  | error code => if errorCodes.contains code then .ok code else .error code

end Cell

namespace Worksheet

/-- The rows and columns that hold a used cell lie between two positions; the second is the first
position after them. -/
structure Extent where
  top : Nat
  bottom : Nat
  left : Nat
  right : Nat

/-- The position of the first element with a property, and the one after the last. -/
def bounds {α : Type} (p : α → Bool) (xs : List α) : Option (Nat × Nat) :=
  match xs.findIdx? p with
  | none => none
  | some first => some (first, xs.length - (xs.reverse.takeWhile fun x => !p x).length)

/-- The smallest extent with all used cells. -/
def extent? (sheet : Worksheet) : Option Extent := do
  let (top, bottom) ← bounds (·.any Cell.isUsed) sheet
  let columns := (sheet.filterMap (bounds Cell.isUsed))
  let left ← (columns.map (·.1)).min?
  let right ← (columns.map (·.2)).max?
  some ⟨top, bottom, left, right⟩

/-- The cells of a row between two columns, absent ones added at the end. -/
def slice (left right : Nat) (cells : List Cell) : List Cell :=
  let found := (cells.take right).drop left
  found ++ List.replicate (right - left - found.length) .absent

/-- The texts of the used part of a worksheet. -/
def grid (sheet : Worksheet) : Except String (List (List String)) := do
  let _ ← sheet.mapM (·.mapM Cell.shown)
  match extent? sheet with
  | none => return []
  | some e =>
    ((sheet.take e.bottom).drop e.top).mapM fun cells =>
      (slice e.left e.right cells).mapM Cell.shown

end Worksheet

end AddressIntake
