import Stencil.Decimal.Binary64
import Stencil.Text.Hex

/-!
# Decimal forms of numbers

Four forms: the fewest digits that read back as the same number, a fixed number of places, a leading digit
with an exponent, and a number of significant digits laid out in the shorter of the last two.  The digits
of each form are found in exact arithmetic.
-/

namespace Stencil.Decimal

/-- A decimal number: an integer of digits times a power of ten. -/
structure Digits where
  /-- The digits, read as one integer. -/
  significand : Nat
  /-- The power of ten of the last digit. -/
  power : Int
deriving DecidableEq, Repr

/-- The characters of the digits. -/
def Digits.chars (d : Digits) : List Char :=
  Text.digits 10 d.significand

/-- The power of ten of the leading digit. -/
def Digits.leading (d : Digits) : Int :=
  d.power + (d.chars.length : Int) - 1

/-- The least number of tenfold increases after which `num` reaches `den`, looked for `fuel` times. -/
def tenfoldsTo : (fuel : Nat) → (num den : Nat) → Nat
  | 0, _, _ => 0
  | fuel + 1, num, den => if den ≤ num then 0 else tenfoldsTo fuel (num * 10) den + 1

/-- The power of ten of the leading digit of a positive quotient. -/
def leadingPower (num den : Nat) : Int :=
  if den ≤ num then (Text.digits 10 (num / den)).length - 1
  else -(tenfoldsTo (den.log2 + 1) num den : Int)

/-- A quotient in units of a power of ten: numerator and denominator. -/
def inUnitsOf (power : Int) (num den : Nat) : Nat × Nat :=
  (num * Nat.pow 10 (-power).toNat, den * Nat.pow 10 power.toNat)

/-- A quotient rounded to a multiple of a power of ten, a tie to the even one. -/
def roundAt (power : Int) (num den : Nat) : Digits :=
  let (n, d) := inUnitsOf power num den
  ⟨roundQuotient n d, power⟩

/-- A positive quotient rounded to a number of significant digits. -/
def roundSignificant (count num den : Nat) : Digits :=
  let rounded := roundAt (leadingPower num den - count + 1) num den
  if rounded.significand = Nat.pow 10 count then ⟨Nat.pow 10 (count - 1), rounded.power + 1⟩ else rounded

/-- The reals that round to one positive number, in quarters of its last place. -/
structure Basin where
  /-- Four times the mantissa. -/
  centre : Nat
  /-- The lower end. -/
  low : Nat
  /-- The upper end. -/
  high : Nat
  /-- Whether the ends belong to it. -/
  closed : Bool

/-- The reals that round to `mantissa * 2 ^ exponent`. -/
def Basin.of (mantissa : Nat) (exponent : Int) : Basin :=
  let narrow := mantissa = Binary64.leadingBit ∧ Binary64.leastExponent < exponent
  ⟨4 * mantissa, 4 * mantissa - (if narrow then 1 else 2), 4 * mantissa + 2, mantissa % 2 = 0⟩

/-- The decimal of `count` digits that is nearest to a number among those that read back as it. -/
def shortestWith? (mantissa : Nat) (exponent : Int) (count : Nat) : Option Digits :=
  let basin := Basin.of mantissa exponent
  let scale := exponent - 2
  let num := Binary64.scaledNumerator basin.centre scale
  let den := Binary64.scaledDenominator scale
  let power := leadingPower num den - count + 1
  let (n, d) := inUnitsOf power num den
  let lower := n / d
  let lowEnd := (inUnitsOf power (Binary64.scaledNumerator basin.low scale) den).1
  let highEnd := (inUnitsOf power (Binary64.scaledNumerator basin.high scale) den).1
  let lowerFits := lowEnd < lower * d || (basin.closed && lowEnd == lower * d)
  let upperFits := (lower + 1) * d < highEnd || (basin.closed && (lower + 1) * d == highEnd)
  match lowerFits, upperFits with
  | true, true => some ⟨roundQuotient n d, power⟩
  | true, false => some ⟨lower, power⟩
  | false, true => some ⟨lower + 1, power⟩
  | false, false => none

/-- The fewest digits that read back as a positive number; seventeen always do. -/
def shortest (mantissa : Nat) (exponent : Int) : Digits :=
  let found := (List.range 17).findSome? fun k => shortestWith? mantissa exponent (k + 1)
  found.getD (roundSignificant 17 (Binary64.scaledNumerator mantissa exponent)
    (Binary64.scaledDenominator exponent))

/-- Drops trailing zeros. -/
def dropZeros (s : List Char) : List Char :=
  (s.reverse.dropWhile (· = '0')).reverse

/-- An exponent: a mark, a sign and at least two digits. -/
def exponentText (power : Int) : List Char :=
  let body := Text.digits 10 power.natAbs
  'e' :: (if power < 0 then '-' else '+') :: (if body.length < 2 then '0' :: body else body)

/-- Digits with the point behind `places` digits from the right, filled up with zeros on the left. -/
def pointed (places n : Nat) : List Char × List Char :=
  let body := Text.digits 10 n
  let padded := List.replicate (places + 1 - body.length) '0' ++ body
  padded.splitAt (padded.length - places)

/-- A whole part and a fraction with the point between them; an empty fraction has no point. -/
def withPoint (whole fraction : List Char) : List Char :=
  if fraction.isEmpty then whole else whole ++ '.' :: fraction

/-- The shortest form of the magnitude of a number: positional when the leading digit stands between the
fourth place behind the point and the sixteenth before it, and always with a point or an exponent. -/
def shortestMagnitude (mantissa : Nat) (exponent : Int) : List Char :=
  if mantissa = 0 then ['0', '.', '0']
  else
    let d := shortest mantissa exponent
    let leading := d.leading
    let chars := d.chars
    if -4 ≤ leading ∧ leading < 16 then
      if leading < 0 then
        '0' :: '.' :: List.replicate (-leading - 1).toNat '0' ++ dropZeros chars
      else
        let whole := (chars ++ List.replicate (leading + 1 - chars.length).toNat '0').take (leading.toNat + 1)
        let fraction := dropZeros (chars.drop (leading.toNat + 1))
        whole ++ '.' :: (if fraction.isEmpty then ['0'] else fraction)
    else
      withPoint (chars.take 1) (dropZeros (chars.drop 1)) ++ exponentText leading

/-- The sign of a number, written only for negative ones. -/
def signText (negative : Bool) : List Char :=
  if negative then ['-'] else []

/-- The shortest text that reads back as a number. -/
def Binary64.text : Binary64 → String
  | .finite negative m e => String.ofList (signText negative ++ shortestMagnitude m e)
  | .infinite negative => if negative then "-inf" else "inf"
  | .nan => "nan"

/-- The magnitude of a quotient with a fixed number of places. -/
def fixedMagnitude (places num den : Nat) : List Char × List Char :=
  pointed places (roundAt (-(places : Int)) num den).significand

/-- A number with a fixed number of places. -/
def Binary64.fixedText (places : Nat) : Binary64 → String
  | .finite negative m e =>
    let (whole, fraction) := fixedMagnitude places (scaledNumerator m e) (scaledDenominator e)
    String.ofList (signText negative ++ withPoint whole fraction)
  | .infinite negative => if negative then "-inf" else "inf"
  | .nan => "nan"

/-- How the magnitude of a number is laid out. -/
inductive Layout
  /-- A fixed number of places. -/
  | fixed
  /-- One digit before the point, and an exponent. -/
  | scientific
  /-- A number of significant digits, with an exponent only if it is small or large. -/
  | general
deriving DecidableEq, Repr

/-- A point behind digits that have none, where a form always shows it. -/
def withForcedPoint (forced : Bool) (whole fraction : List Char) : List Char :=
  if fraction.isEmpty then (if forced then whole ++ ['.'] else whole) else whole ++ '.' :: fraction

/-- The magnitude of a quotient with `places` digits behind the leading one, and an exponent. -/
def scientificMagnitude (forced : Bool) (places num den : Nat) : List Char :=
  if num = 0 then withForcedPoint forced ['0'] (List.replicate places '0') ++ exponentText 0
  else
    let d := roundSignificant (places + 1) num den
    withForcedPoint forced (d.chars.take 1) (d.chars.drop 1) ++ exponentText d.leading

/-- The magnitude of a quotient with `count` significant digits; trailing zeros are kept only when the
point is forced. -/
def generalMagnitude (forced : Bool) (count num den : Nat) : List Char :=
  let count := max count 1
  let leading := if num = 0 then 0 else (roundSignificant count num den).leading
  let keep (fraction : List Char) := if forced then fraction else dropZeros fraction
  if -4 ≤ leading ∧ leading < count then
    let (whole, fraction) := fixedMagnitude ((count : Int) - 1 - leading).toNat num den
    withForcedPoint forced whole (keep fraction)
  else
    let d := roundSignificant count num den
    withForcedPoint forced (d.chars.take 1) (keep (d.chars.drop 1)) ++ exponentText leading

/-- The magnitude of a quotient in a layout. -/
def Layout.magnitude (layout : Layout) (forced : Bool) (precision num den : Nat) : List Char :=
  match layout with
  | .fixed =>
    let (whole, fraction) := fixedMagnitude precision num den
    withForcedPoint forced whole fraction
  | .scientific => scientificMagnitude forced precision num den
  | .general => generalMagnitude forced precision num den

end Stencil.Decimal
