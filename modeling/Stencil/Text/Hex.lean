/-!
# Digits in a base

Hexadecimal and other digits, and the digits of a natural number in a base.
-/

namespace Stencil.Text

/-- The digit of a value below sixteen, in lower case. -/
def hexDigit (n : Nat) : Char :=
  if n < 10 then Char.ofNat (48 + n) else Char.ofNat (87 + n)

/-- The value of a hexadecimal digit in either case. -/
def hexValue? (c : Char) : Option Nat :=
  if '0' ≤ c ∧ c ≤ '9' then some (c.toNat - 48)
  else if 'a' ≤ c ∧ c ≤ 'f' then some (c.toNat - 87)
  else if 'A' ≤ c ∧ c ≤ 'F' then some (c.toNat - 55)
  else none

/-- The last `width` hexadecimal digits of a number, most significant first. -/
def hexPadded : (width : Nat) → Nat → List Char
  | 0, _ => []
  | width + 1, n => hexPadded width (n / 16) ++ [hexDigit (n % 16)]

/-- The digits of a number in a base, most significant first, written before those in `acc`. -/
def digitsOnto (base n : Nat) (acc : List Char) : List Char :=
  if _h : 2 ≤ base ∧ base ≤ n then
    digitsOnto base (n / base) (hexDigit (n % base) :: acc)
  else hexDigit (n % (max base 1)) :: acc
termination_by n
decreasing_by exact Nat.div_lt_self (Nat.lt_of_lt_of_le Nat.zero_lt_two (Nat.le_trans _h.1 _h.2)) _h.1

/-- The digits of a number in a base, most significant first. -/
def digits (base n : Nat) : List Char :=
  digitsOnto base n []

/-- The number that decimal digits spell. -/
def natOfDigits (s : List Char) : Nat :=
  s.foldl (fun n c => 10 * n + (c.toNat - 48)) 0

end Stencil.Text
