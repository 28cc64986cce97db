import Stencil.Decimal.Binary64
import Stencil.Text.DecimalDigit
import Stencil.Text.Hex

/-!
# Reading decimal numbers

Digits with at most one point and an optional exponent, read as the nearest binary number.
-/

namespace Stencil.Decimal

/-- The parts of a written number. -/
structure Written where
  /-- The digits before the point. -/
  whole : List Char
  /-- The digits behind the point. -/
  fraction : List Char
  /-- Whether there is a point. -/
  pointed : Bool
  /-- The exponent, when one is written. -/
  exponent : Option Int
deriving DecidableEq, Repr

/-- Reads a sign. -/
def readSign : List Char → Bool × List Char
  | '-' :: rest => (true, rest)
  | '+' :: rest => (false, rest)
  | rest => (false, rest)

/-- Reads digits with at most one point. -/
def readPointed (s : List Char) : List Char × List Char × Bool × List Char :=
  let whole := s.takeWhile Text.isAsciiDigit
  match s.dropWhile Text.isAsciiDigit with
  | '.' :: rest => (whole, rest.takeWhile Text.isAsciiDigit, true, rest.dropWhile Text.isAsciiDigit)
  | rest => (whole, [], false, rest)

/-- Reads an unsigned number that takes up a whole text; some digit stands beside the point. -/
def readWritten? (s : List Char) : Option Written :=
  let (whole, fraction, pointed, rest) := readPointed s
  if whole.isEmpty && fraction.isEmpty then none
  else
    match rest with
    | [] => some ⟨whole, fraction, pointed, none⟩
    | mark :: rest =>
      if mark = 'e' ∨ mark = 'E' then
        let (negative, digits) := readSign rest
        if digits.isEmpty || !digits.all Text.isAsciiDigit then none
        else
          let size : Int := Text.natOfDigits digits
          some ⟨whole, fraction, pointed, some (if negative then -size else size)⟩
      else none

/-- The number that is written. -/
def Written.value (negative : Bool) (w : Written) : Binary64 :=
  .ofDecimal negative (Text.natOfDigits (w.whole ++ w.fraction)) (w.exponent.getD 0 - w.fraction.length)

/-- The number that a text spells, with an optional sign. -/
def read? (s : List Char) : Option Binary64 :=
  let (negative, rest) := readSign s
  (readWritten? rest).map (·.value negative)

end Stencil.Decimal
