import AddressIntake.Text.Digit

namespace AddressIntake.Number

open Text

/-- A double is no number at all, or a sign with infinity or with `mantissa * 2 ^ exponent`. -/
inductive Binary64 where
  | nan
  | infinity (negative : Bool)
  | finite (negative : Bool) (mantissa : Nat) (exponent : Int)
  deriving DecidableEq, Repr

namespace Binary64

/-- The least exponent. -/
def minExponent : Int := -1074

/-- The greatest exponent. -/
def maxExponent : Int := 971

/-- The least mantissa, `2 ^ 52`, of a number above those with the least exponent. -/
def leastMantissa : Nat := 4503599627370496

/-- Every mantissa is below this number, `2 ^ 53`. -/
def mantissaLimit : Nat := 9007199254740992

/-- A quotient to the nearest whole number, a half going to the even neighbour. -/
def divNearestEven (n d : Nat) : Nat :=
  let q := n / d
  let r := n % d
  if 2 * r < d then q
  else if d < 2 * r then q + 1
  else if q % 2 == 0 then q else q + 1

/-- The fraction `n / d` divided by `2 ^ e`, as a fraction. -/
def scaleDown (n d : Nat) (e : Int) : Nat × Nat :=
  if 0 ≤ e then (n, d * Nat.pow 2 e.toNat) else (n * Nat.pow 2 (-e).toNat, d)

/-- The double nearest to `n / d`, a half going to the even mantissa. -/
def ofFraction (negative : Bool) (n d : Nat) : Binary64 :=
  if n == 0 then .finite negative 0 minExponent
  else
    let low : Int := (n.log2 : Int) - (d.log2 : Int) - 53
    let fits := scaleDown n d low
    let exact := if fits.1 / fits.2 < mantissaLimit then low else low + 1
    let e := max exact minExponent
    let scaled := scaleDown n d e
    let m := divNearestEven scaled.1 scaled.2
    let rounded : Nat × Int := if m == mantissaLimit then (leastMantissa, e + 1) else (m, e)
    if maxExponent < rounded.2 then .infinity negative
    else .finite negative rounded.1 rounded.2

/-- The double nearest to `digits * 10 ^ e`. A numeral far outside the range is settled by its
order of magnitude. -/
def ofDecimal (negative : Bool) (digits : List Char) (e : Int) : Binary64 :=
  let significant := digits.dropWhile (· == '0')
  let magnitude := (significant.length : Int) + e
  if significant.isEmpty || magnitude < -330 then .finite negative 0 minExponent
  else if 310 < magnitude then .infinity negative
  else
    let n := ofDigits significant
    if 0 ≤ e then ofFraction negative (n * Nat.pow 10 e.toNat) 1
    else ofFraction negative n (Nat.pow 10 (-e).toNat)

/-- Whether a double is a number. -/
def isFinite : Binary64 → Bool
  | .finite .. => true
  | _ => false

/-- The double nearest to the product of two doubles. -/
def times : Binary64 → Binary64 → Binary64
  | .finite negative m e, .finite negative' m' e' =>
    if 0 ≤ e + e' then ofFraction (negative != negative') (m * m' * Nat.pow 2 (e + e').toNat) 1
    else ofFraction (negative != negative') (m * m') (Nat.pow 2 (-(e + e')).toNat)
  | .finite negative m _, .infinity negative'
  | .infinity negative', .finite negative m _ =>
    if m == 0 then .nan else .infinity (negative != negative')
  | .infinity negative, .infinity negative' => .infinity (negative != negative')
  | _, _ => .nan

/-- The product of the doubles nearest to a number and to a power of ten. -/
def timesPowerOfTen (n k : Nat) : Binary64 :=
  (ofFraction false n 1).times (ofFraction false (Nat.pow 10 k) 1)

/-- An exponent part: nothing, or `e`, an optional sign and at least one digit. -/
def readExponent : List Char → Option Int
  | [] => some 0
  | c :: rest =>
    if c == 'e' || c == 'E' then
      let signed : Bool × List Char := match rest with
        | '-' :: ds => (true, ds)
        | '+' :: ds => (false, ds)
        | ds => (false, ds)
      if signed.2.isEmpty || !signed.2.all isAsciiDigit then none
      else
        let n : Int := ofDigits signed.2
        some (if signed.1 then -n else n)
    else none

/-- A numeral without its sign: digits around an optional point, at least one of them, and an
optional exponent. -/
def readNumeral (negative : Bool) (cs : List Char) : Option Binary64 :=
  let whole := cs.takeWhile isAsciiDigit
  let afterWhole := cs.dropWhile isAsciiDigit
  let fraction : List Char × List Char := match afterWhole with
    | '.' :: rest => (rest.takeWhile isAsciiDigit, rest.dropWhile isAsciiDigit)
    | rest => ([], rest)
  if whole.isEmpty && fraction.1.isEmpty then none
  else
    (readExponent fraction.2).map fun e =>
      ofDecimal negative (whole ++ fraction.1) (e - fraction.1.length)

/-- The double written by a text: a signed numeral, or one of the names of infinity and of the
value that is no number, in any case. -/
def read? (s : String) : Option Binary64 :=
  let signed : Bool × List Char := match s.toList with
    | '-' :: rest => (true, rest)
    | '+' :: rest => (false, rest)
    | rest => (false, rest)
  let name := String.ofList (signed.2.map Char.toLower)
  if name == "inf" || name == "infinity" then some (.infinity signed.1)
  else if name == "nan" then some .nan
  else readNumeral signed.1 signed.2

/-- The numbers that a finite double stands for: from `low / den` to `high / den`, around
`mid / den`. The ends belong to it when its mantissa is even. -/
structure Span where
  low : Nat
  mid : Nat
  high : Nat
  den : Nat
  closed : Bool

/-- The span of a positive mantissa. Below the least mantissa of an exponent the next double is
half as far away as above it. -/
def Span.of (mantissa : Nat) (exponent : Int) : Span :=
  let below := if mantissa == leastMantissa && minExponent < exponent then 1 else 2
  let unit := exponent - 2
  let up := if 0 ≤ unit then Nat.pow 2 unit.toNat else 1
  let den := if 0 ≤ unit then 1 else Nat.pow 2 (-unit).toNat
  ⟨(4 * mantissa - below) * up, 4 * mantissa * up, (4 * mantissa + 2) * up, den, mantissa % 2 == 0⟩

/-- Whether `n / d` lies in the span. -/
def Span.contains (span : Span) (n d : Nat) : Bool :=
  if span.closed then
    span.low * d ≤ n * span.den && n * span.den ≤ span.high * d
  else
    span.low * d < n * span.den && n * span.den < span.high * d

/-- The multiple of `10 ^ p` in the span that is nearest to its middle, the greater of two that are
equally near. Only the two multiples around the middle can be in the span. -/
def Span.multiple? (span : Span) (p : Int) : Option Nat :=
  let up := if 0 ≤ p then Nat.pow 10 p.toNat else 1
  let down := if 0 ≤ p then 1 else Nat.pow 10 (-p).toNat
  let below := span.mid * down / (span.den * up)
  let above := below + 1
  let belowFits := span.contains (below * up) down
  let aboveFits := span.contains (above * up) down
  if belowFits && aboveFits then
    let toBelow := span.mid * down - below * up * span.den
    let toAbove := above * up * span.den - span.mid * down
    some (if toBelow < toAbove then below else above)
  else if belowFits then some below
  else if aboveFits then some above
  else none

/-- The first power of ten, going down from `p`, of which a multiple lies in the span, with that
multiple. -/
def Span.shortestFrom (span : Span) : Nat → Int → Nat × Int
  | 0, p => (span.mid * (if 0 ≤ p then 1 else Nat.pow 10 (-p).toNat) / span.den, p)
  | steps + 1, p =>
    match span.multiple? p with
    | some n => (n, p)
    | none => span.shortestFrom steps (p - 1)

/-- The fewest decimal digits that read back as a positive double, and the power of ten of the last
one. -/
def shortest (mantissa : Nat) (exponent : Int) : Nat × Int :=
  let span := Span.of mantissa exponent
  let magnitude : Int := ((span.mid / span.den).log2 : Int) * 3 / 10 + 2
  let start : Int := if span.mid < span.den then 0 else magnitude
  span.shortestFrom 400 start

/-- Digits times a power of ten, without an exponent. -/
def positional (digits : Nat) (p : Int) : List Char :=
  let ds := Nat.toDigits 10 digits
  if 0 ≤ p then ds ++ List.replicate p.toNat '0'
  else
    let places := (-p).toNat
    let padded := List.replicate (places + 1 - ds.length) '0' ++ ds
    padded.take (padded.length - places) ++ '.' :: padded.drop (padded.length - places)

/-- The shortest text that reads back as the double, never with an exponent. -/
def toText : Binary64 → String
  | .nan => "NaN"
  | .infinity negative => if negative then "-inf" else "inf"
  | .finite negative mantissa exponent =>
    let digits :=
      if mantissa == 0 then ['0']
      else
        let short := shortest mantissa exponent
        positional short.1 short.2
    String.ofList (if negative then '-' :: digits else digits)

/-- The value of a double that is whole. -/
def whole? : Binary64 → Option Int
  | .finite negative mantissa exponent =>
    let magnitude : Option Nat :=
      if 0 ≤ exponent then some (mantissa * Nat.pow 2 exponent.toNat)
      else
        let unit := Nat.pow 2 (-exponent).toNat
        if mantissa % unit == 0 then some (mantissa / unit) else none
    magnitude.map fun n => if negative then -(n : Int) else n
  | _ => none

end Binary64

end AddressIntake.Number
