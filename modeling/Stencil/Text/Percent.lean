import Stencil.Text.Hex
import Stencil.Text.Utf8

/-!
# Text within an address

A text becomes one segment of an address: ASCII letters, digits and four marks stand for themselves, and
each byte of every other character is written as a percent sign and two hexadecimal digits.
-/

namespace Stencil.Text.Percent

/-- Whether a character stands for itself in an address. -/
def isUnreserved (c : Char) : Bool :=
  c.isAlphanum || c = '_' || c = '.' || c = '-' || c = '~'

/-- A byte written with a percent sign. -/
def escapeByte (b : UInt8) : List Char :=
  '%' :: (hexPadded 2 b.toNat).map Char.toUpper

/-- One character of an address segment. -/
def encodeChar (c : Char) : List Char :=
  if isUnreserved c then [c] else (Utf8.encodeChar c).flatMap escapeByte

/-- A text as one segment of an address. -/
def encode (s : List Char) : List Char :=
  s.flatMap encodeChar

end Stencil.Text.Percent
