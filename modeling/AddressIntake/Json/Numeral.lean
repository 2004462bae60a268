import AddressIntake.Number.Binary64
import AddressIntake.Number.Unsigned

namespace AddressIntake.Json

open Text

/-- The text after an optional fraction, or nothing if a point has no digit after it. -/
def afterFraction? : List Char → Option (List Char)
  | '.' :: rest =>
    if (rest.takeWhile isAsciiDigit).isEmpty then none else some (rest.dropWhile isAsciiDigit)
  | rest => some rest

/-- The text after an optional sign. -/
def afterSign : List Char → List Char
  | '-' :: rest => rest
  | '+' :: rest => rest
  | rest => rest

/-- The text after an optional exponent, or nothing if it has no digits. -/
def afterExponent? : List Char → Option (List Char)
  | [] => some []
  | e :: rest =>
    if e == 'e' || e == 'E' then
      let digits := afterSign rest
      if (digits.takeWhile isAsciiDigit).isEmpty then none
      else some (digits.dropWhile isAsciiDigit)
    else some (e :: rest)

/-- The text after digits without a needless zero in front, or nothing if there are none. -/
def afterWhole? (cs : List Char) : Option (List Char) :=
  match cs.takeWhile isAsciiDigit with
  | [] => none
  | '0' :: _ :: _ => none
  | _ => some (cs.dropWhile isAsciiDigit)

/-- The text after a minus sign, if there is one. -/
def afterMinus : List Char → List Char
  | '-' :: rest => rest
  | rest => rest

/-- The text after the numeral in front, or nothing if there is no numeral. -/
def afterNumeral? (cs : List Char) : Option (List Char) :=
  (afterWhole? (afterMinus cs)).bind fun rest => (afterFraction? rest).bind afterExponent?

/-- The characters of numerals. -/
def isNumeralChar (c : Char) : Bool :=
  isAsciiDigit c || c == '-' || c == '+' || c == '.' || c == 'e' || c == 'E'

/-- The numeral in front of a text. -/
def numeralOf (cs : List Char) : List Char :=
  let run := cs.takeWhile isNumeralChar
  run.take (run.length - ((afterNumeral? run).getD []).length)

theorem length_afterFraction?_le {cs rest : List Char} (hafter : afterFraction? cs = some rest) :
    rest.length ≤ cs.length := by
  unfold afterFraction? at hafter
  split at hafter
  · next tail =>
    split at hafter
    · cases hafter
    · cases hafter
      have := (List.dropWhile_suffix isAsciiDigit (l := tail)).length_le
      simp only [List.length_cons]
      omega
  · cases hafter
    omega

theorem length_afterSign_le (cs : List Char) : (afterSign cs).length ≤ cs.length := by
  unfold afterSign
  split <;> simp

theorem length_afterExponent?_le {cs rest : List Char} (hafter : afterExponent? cs = some rest) :
    rest.length ≤ cs.length := by
  unfold afterExponent? at hafter
  split at hafter
  · cases hafter
    omega
  · next e tail =>
    split at hafter
    · simp only at hafter
      split at hafter
      · cases hafter
      · cases hafter
        have := (List.dropWhile_suffix isAsciiDigit (l := afterSign tail)).length_le
        have := length_afterSign_le tail
        simp only [List.length_cons]
        omega
    · cases hafter
      omega

theorem length_dropWhile_lt {p : Char → Bool} {cs : List Char} (hne : cs.takeWhile p ≠ []) :
    (cs.dropWhile p).length < cs.length := by
  have hparts : (cs.takeWhile p ++ cs.dropWhile p).length = cs.length := by
    rw [List.takeWhile_append_dropWhile]
  have hpos := List.length_pos_iff.2 hne
  rw [List.length_append] at hparts
  omega

theorem length_afterWhole?_lt {cs rest : List Char} (hafter : afterWhole? cs = some rest) :
    rest.length < cs.length := by
  unfold afterWhole? at hafter
  split at hafter
  · cases hafter
  · cases hafter
  · next hne _ =>
    cases hafter
    exact length_dropWhile_lt hne

theorem length_afterNumeral?_lt {cs rest : List Char} (hafter : afterNumeral? cs = some rest) :
    rest.length < cs.length := by
  obtain ⟨whole, hwhole, hrest⟩ := Option.bind_eq_some_iff.1 hafter
  obtain ⟨fraction, hfraction, hexponent⟩ := Option.bind_eq_some_iff.1 hrest
  have := length_afterWhole?_lt hwhole
  have := length_afterFraction?_le hfraction
  have := length_afterExponent?_le hexponent
  have hminus : (afterMinus cs).length ≤ cs.length := by
    unfold afterMinus
    split <;> simp
  omega

/-- A significand of one word with a power of ten. -/
structure Scientific where
  significand : Nat
  exponent : Int

namespace Scientific

/-- Appends the digits of a whole number. From the first one on that does not fit into the word they
only count. -/
def pushWhole (x : Scientific) : List Char → Scientific
  | [] => x
  | d :: rest =>
    let n := x.significand * 10 + digitValue d
    if x.exponent == 0 && n ≤ Number.maxWord64 then pushWhole ⟨n, 0⟩ rest
    else pushWhole { x with exponent := x.exponent + 1 } rest

/-- Appends the digits of a fraction, up to the first one that does not fit into the word. -/
def pushFraction (x : Scientific) : List Char → Scientific
  | [] => x
  | d :: rest =>
    let n := x.significand * 10 + digitValue d
    if n ≤ Number.maxWord64 then pushFraction ⟨n, x.exponent - 1⟩ rest else x

/-- Whether the value is beyond the greatest double. -/
def isHuge (x : Scientific) : Bool :=
  if x.significand == 0 || x.exponent < 0 then false
  else 308 < x.exponent ||
    !(Number.Binary64.timesPowerOfTen x.significand x.exponent.toNat).isFinite

end Scientific

/-- The greatest exponent that is not taken for infinite as it is read. -/
def maxExponent : Nat := 2147483647

/-- Whether the value of a numeral is in the range of doubles. It is taken in two steps, a
significand of one word and then a power of ten, and each step rounds. -/
def isInRange (numeral : String) : Bool :=
  let unsigned := afterMinus numeral.toList
  let afterWhole := unsigned.dropWhile isAsciiDigit
  let whole := Scientific.pushWhole ⟨0, 0⟩ (unsigned.takeWhile isAsciiDigit)
  let fraction := match afterWhole with
    | '.' :: rest => rest.takeWhile isAsciiDigit
    | _ => []
  let x := whole.pushFraction fraction
  match (afterFraction? afterWhole).getD [] with
  | _ :: rest =>
    let n := ofDigits (afterSign rest)
    let negative := rest.head? == some '-'
    if maxExponent < n then negative || x.significand == 0
    else !{ x with exponent := x.exponent + if negative then -(n : Int) else n }.isHuge
  | [] => !x.isHuge

end AddressIntake.Json
