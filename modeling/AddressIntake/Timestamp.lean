import AddressIntake.Json.Decoder
import AddressIntake.Text.Blank
import AddressIntake.Text.Digit

namespace AddressIntake

/-- A day of the proleptic Gregorian calendar. -/
structure Date where
  year : Int
  month : Nat
  day : Nat
  deriving DecidableEq, Repr

namespace Date

/-- Whether the year has a 29th of February. -/
def isLeap (year : Int) : Bool :=
  year % 4 == 0 && (year % 100 != 0 || year % 400 == 0)

/-- The number of days of a month, nothing for a number that is no month. -/
def daysIn (year : Int) (month : Nat) : Nat :=
  match month with
  | 2 => if isLeap year then 29 else 28
  | 4 | 6 | 9 | 11 => 30
  | 1 | 3 | 5 | 7 | 8 | 10 | 12 => 31
  | _ => 0

/-- A day that exists, in the range of years that the calendar covers. -/
def IsValid (d : Date) : Prop :=
  1 ≤ d.day ∧ d.day ≤ daysIn d.year d.month ∧ -262143 ≤ d.year ∧ d.year ≤ 262142

instance (d : Date) : Decidable d.IsValid := by
  unfold IsValid
  infer_instance

/-- The day after. -/
def next (d : Date) : Date :=
  if d.day < daysIn d.year d.month then { d with day := d.day + 1 }
  else if d.month < 12 then ⟨d.year, d.month + 1, 1⟩
  else ⟨d.year + 1, 1, 1⟩

/-- The day before. -/
def previous (d : Date) : Date :=
  if 1 < d.day then { d with day := d.day - 1 }
  else if 1 < d.month then ⟨d.year, d.month - 1, daysIn d.year (d.month - 1)⟩
  else ⟨d.year - 1, 12, 31⟩

end Date

/-- A date with a time of day. A leap second is the second number 60. -/
structure CivilTime where
  date : Date
  hour : Nat
  minute : Nat
  second : Nat
  nanosecond : Nat
  deriving DecidableEq, Repr

namespace CivilTime

/-- A time whose parts are in range. -/
def IsValid (t : CivilTime) : Prop :=
  t.date.IsValid ∧ t.hour < 24 ∧ t.minute < 60 ∧ t.second ≤ 60 ∧ t.nanosecond < 1000000000

instance (t : CivilTime) : Decidable t.IsValid := by
  unfold IsValid
  infer_instance

/-- The time in universal time of a local time with an offset of less than a day, in minutes. -/
def ofLocal (t : CivilTime) (offset : Int) : CivilTime :=
  let minutes := (t.hour * 60 + t.minute : Int) - offset
  let date :=
    if minutes < 0 then t.date.previous
    else if minutes < 1440 then t.date
    else t.date.next
  let ofDay := (minutes % 1440).toNat
  { t with date := date, hour := ofDay / 60, minute := ofDay % 60 }

end CivilTime

/-- A moment in universal time. -/
structure Timestamp where
  civil : CivilTime
  valid : civil.IsValid
  deriving DecidableEq

namespace Timestamp

open Text

/-- The first moment of 1970. -/
def epoch : Timestamp := ⟨⟨⟨1970, 1, 1⟩, 0, 0, 0, 0⟩, by decide⟩

instance : Inhabited Timestamp := ⟨epoch⟩

/-- A number with at least the given count of digits. -/
def padded (width n : Nat) : List Char :=
  let ds := Nat.toDigits 10 n
  List.replicate (width - ds.length) '0' ++ ds

/-- A year: four digits from 0 to 9999, and a sign before any other. -/
def yearText (year : Int) : List Char :=
  if 0 ≤ year ∧ year ≤ 9999 then padded 4 year.natAbs
  else (if year < 0 then '-' else '+') :: padded 4 year.natAbs

/-- The fraction of a second in the fewest of 0, 3, 6 and 9 digits that are exact. -/
def fractionText (nanosecond : Nat) : List Char :=
  if nanosecond == 0 then []
  else if nanosecond % 1000000 == 0 then '.' :: padded 3 (nanosecond / 1000000)
  else if nanosecond % 1000 == 0 then '.' :: padded 6 (nanosecond / 1000)
  else '.' :: padded 9 nanosecond

/-- The text of a moment: date and time with the letter `Z`. -/
def toText (t : Timestamp) : String :=
  let c := t.civil
  String.ofList (yearText c.date.year ++ '-' :: padded 2 c.date.month ++ '-' ::
    padded 2 c.date.day ++ 'T' :: padded 2 c.hour ++ ':' :: padded 2 c.minute ++ ':' ::
    padded 2 c.second ++ fractionText c.nanosecond ++ ['Z'])

/-- A number of one digit up to the given count, after blanks, and what follows it. -/
def readNumber (width : Nat) (cs : List Char) : Option (Nat × List Char) :=
  let visible := dropBlankStart cs
  let ds := (visible.take width).takeWhile isAsciiDigit
  if ds.isEmpty then none else some (ofDigits ds, visible.drop ds.length)

/-- A year, of any length after a sign and of up to four digits without one. -/
def readYear (cs : List Char) : Option (Int × List Char) :=
  let visible := dropBlankStart cs
  match visible with
  | '-' :: rest =>
    let ds := rest.takeWhile isAsciiDigit
    if ds.isEmpty then none else some (-(ofDigits ds : Int), rest.drop ds.length)
  | '+' :: rest =>
    let ds := rest.takeWhile isAsciiDigit
    if ds.isEmpty then none else some ((ofDigits ds : Int), rest.drop ds.length)
  | _ => (readNumber 4 visible).map fun r => ((r.1 : Int), r.2)

/-- A given character, after blanks. -/
def readMark (mark : Char) (cs : List Char) : Option (List Char) :=
  match dropBlankStart cs with
  | c :: rest => if c == mark then some rest else none
  | [] => none

/-- An optional fraction of a second, cut off after nine digits. -/
def readFraction (cs : List Char) : Option (Nat × List Char) :=
  match cs with
  | '.' :: rest =>
    let ds := rest.takeWhile isAsciiDigit
    if ds.isEmpty then none
    else
      let nine := ds.take 9
      some (ofDigits (nine ++ List.replicate (9 - nine.length) '0'), rest.drop ds.length)
  | _ => some (0, cs)

/-- The minutes after the hours of an offset, the colon between them being optional. -/
def readOffsetMinutes (cs : List Char) : Option (Nat × List Char) :=
  match cs.dropWhile fun c => c == ':' || isBlankChar c with
  | a :: b :: rest =>
    if isAsciiDigit a && isAsciiDigit b && a ≤ '5' then some (ofDigits [a, b], rest) else none
  | _ => none

/-- An offset from universal time in minutes: `Z`, the name `UTC`, or a sign, two digits of hours
and two of minutes. -/
def readOffset (cs : List Char) : Option (Int × List Char) :=
  match cs with
  | sign :: rest =>
    if ((cs.take 3).map Char.toUpper) == ['U', 'T', 'C'] then some (0, cs.drop 3)
    else if sign == 'Z' || sign == 'z' then some (0, rest)
    else if sign == '+' || sign == '-' || sign == '−' then
      match rest with
      | a :: b :: rest' =>
        if isAsciiDigit a && isAsciiDigit b then
          (readOffsetMinutes rest').map fun m =>
            let minutes : Int := (ofDigits [a, b] * 60 + m.1 : Nat)
            (if sign == '+' then minutes else -minutes, m.2)
        else none
      | _ => none
    else none
  | [] => none

/-- The moment of a text. Blanks, the number of digits and the separator may vary, and any offset
below a day is taken. -/
def parse? (s : String) : Option Timestamp := do
  let (year, cs) ← readYear s.toList
  let cs ← readMark '-' cs
  let (month, cs) ← readNumber 2 cs
  let cs ← readMark '-' cs
  let (day, cs) ← readNumber 2 cs
  let cs ← match cs with
    | c :: rest => if c == 'T' || c == 't' || c == ' ' then some rest else none
    | [] => none
  let (hour, cs) ← readNumber 2 cs
  let cs ← readMark ':' cs
  let (minute, cs) ← readNumber 2 cs
  let cs ← readMark ':' cs
  let (second, cs) ← readNumber 2 cs
  let (nanosecond, cs) ← readFraction cs
  let (offset, cs) ← readOffset (dropBlankStart cs)
  let here : CivilTime := ⟨⟨year, month, day⟩, hour, minute, second, nanosecond⟩
  if cs.all isBlankChar ∧ here.IsValid ∧ -1440 < offset ∧ offset < 1440 then
    if hvalid : (here.ofLocal offset).IsValid then some ⟨here.ofLocal offset, hvalid⟩ else none
  else none

/-- The JSON text of a moment. -/
def toJson (t : Timestamp) : Json :=
  .str t.toText

/-- The moment in a JSON text. -/
def decoder : Json.Decoder Timestamp :=
  Json.Decoder.string.filterMap parse?

end Timestamp

end AddressIntake
