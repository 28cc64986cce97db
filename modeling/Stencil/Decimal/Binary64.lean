/-!
# Binary numbers of 64 bits

A number is a signed mantissa below `2 ^ 53` times a power of two, an infinity, or no number.  Every
operation computes the exact result first and then rounds it once, a tie going to the even neighbour.
-/

namespace Stencil.Decimal

/-- The quotient of two natural numbers rounded to the nearest one, a tie to the even one. -/
def roundQuotient (num den : Nat) : Nat :=
  let q := num / den
  let r := num % den
  if 2 * r < den then q
  else if den < 2 * r then q + 1
  else if q % 2 = 0 then q
  else q + 1

/-- A binary number of 64 bits. -/
inductive Binary64
  /-- The number `mantissa * 2 ^ exponent`, with a sign also at zero. -/
  | finite (negative : Bool) (mantissa : Nat) (exponent : Int)
  /-- An infinity. -/
  | infinite (negative : Bool)
  /-- No number. -/
  | nan
deriving DecidableEq, Repr

namespace Binary64

/-- The exponent of the smallest positive number. -/
def leastExponent : Int := -1074

/-- The exponent of the largest numbers. -/
def greatestExponent : Int := 971

/-- The least mantissa of 53 bits, `2 ^ 52`. -/
def leadingBit : Nat := 4503599627370496

/-- The numerator of `n * 2 ^ exponent` as a fraction in which only one side is scaled. -/
def scaledNumerator (n : Nat) (exponent : Int) : Nat :=
  n * Nat.pow 2 exponent.toNat

/-- The denominator of `n * 2 ^ exponent` as a fraction in which only one side is scaled. -/
def scaledDenominator (exponent : Int) : Nat :=
  Nat.pow 2 (-exponent).toNat

/-- The mantissa of a quotient at a given exponent. -/
def mantissaAt (num den : Nat) (exponent : Int) : Nat :=
  roundQuotient (scaledNumerator num (-exponent)) (den * scaledDenominator (-exponent))

/-- The exponent at which a positive quotient has a mantissa of 53 bits, or the least one. -/
def exponentOf (num den : Nat) : Int :=
  let guess : Int := (num.log2 : Int) - den.log2 - 52
  let short := scaledNumerator num (-guess) < leadingBit * (den * scaledDenominator (-guess))
  max leastExponent (if short then guess - 1 else guess)

/-- The number nearest to a quotient; `den` is positive. -/
def ofQuotient (negative : Bool) (num den : Nat) : Binary64 :=
  if num = 0 then .finite negative 0 leastExponent
  else
    let exponent := exponentOf num den
    let mantissa := mantissaAt num den exponent
    let carried := mantissa = 2 * leadingBit
    let exponent' := if carried then exponent + 1 else exponent
    if greatestExponent < exponent' then .infinite negative
    else .finite negative (if carried then leadingBit else mantissa) exponent'

/-- The number nearest to an integer. -/
def ofInt (n : Int) : Binary64 :=
  ofQuotient (n < 0) n.natAbs 1

/-- The number nearest to `n * 10 ^ power`. -/
def ofDecimal (negative : Bool) (n : Nat) (power : Int) : Binary64 :=
  let width : Int := if n = 0 then 0 else (n.log2 : Int) / 3
  if n = 0 then .finite negative 0 leastExponent
  else if 400 < power then .infinite negative
  else if width + power < -400 then .finite negative 0 leastExponent
  else ofQuotient negative (n * Nat.pow 10 power.toNat) (Nat.pow 10 (-power).toNat)

/-- Whether a number has a negative sign. -/
def isNegative : Binary64 → Bool
  | .finite negative _ _ => negative
  | .infinite negative => negative
  | .nan => false

/-- Whether a number is a zero of either sign. -/
def isZero : Binary64 → Bool
  | .finite _ mantissa _ => mantissa = 0
  | _ => false

/-- The product of two numbers. -/
def mul : Binary64 → Binary64 → Binary64
  | .finite s m e, .finite t n f =>
    ofQuotient (s != t) (scaledNumerator (m * n) (e + f)) (scaledDenominator (e + f))
  | .nan, _ => .nan
  | _, .nan => .nan
  | x, y => if x.isZero || y.isZero then .nan else .infinite (x.isNegative != y.isNegative)

/-- A finite number as an integer multiple of the smallest positive number. -/
def toUnits (negative : Bool) (mantissa : Nat) (exponent : Int) : Int :=
  let units : Int := scaledNumerator mantissa (exponent - leastExponent)
  if negative then -units else units

/-- The sum of two numbers. -/
def add : Binary64 → Binary64 → Binary64
  | .finite s m e, .finite t n f =>
    let sum := toUnits s m e + toUnits t n f
    ofQuotient (if sum = 0 then s && t else sum < 0) sum.natAbs (scaledDenominator leastExponent)
  | .nan, _ => .nan
  | _, .nan => .nan
  | .infinite s, .infinite t => if s = t then .infinite s else .nan
  | .infinite s, _ => .infinite s
  | _, .infinite t => .infinite t

/-- The number with the other sign. -/
def neg : Binary64 → Binary64
  | .finite negative m e => .finite (!negative) m e
  | .infinite negative => .infinite (!negative)
  | .nan => .nan

/-- Whether a number is greater than zero. -/
def isPositive : Binary64 → Bool
  | .finite negative m _ => !negative && m ≠ 0
  | .infinite negative => !negative
  | .nan => false

/-- Whether two numbers are equal: the zeros are, and what is no number equals nothing. -/
def equal : Binary64 → Binary64 → Bool
  | .finite s m e, .finite t n f => toUnits s m e == toUnits t n f
  | .infinite s, .infinite t => s == t
  | _, _ => false

/-- The integer that a number is, if it is one. -/
def toInt? : Binary64 → Option Int
  | .finite negative m e =>
    let num := scaledNumerator m e
    let den := scaledDenominator e
    if num % den = 0 then some (if negative then -(num / den : Nat) else (num / den : Nat)) else none
  | _ => none

end Binary64

end Stencil.Decimal
