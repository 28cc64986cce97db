import Stencil.Text.Blank
import Stencil.Text.DecimalDigit
import Stencil.Text.Hex

/-!
# Whole numbers in text

A whole number is written as an optional sign and digits, with single underscores between the digits where
that helps the reader, and blanks around it.  In a base other than ten the digits may follow the mark of
their base.
-/

namespace Stencil.Text

/-- The value of a digit in a base: decimal digits of all scripts and the letters of the alphabet. -/
def digitIn? (base : Nat) (c : Char) : Option Nat :=
  let value? :=
    match decimalValue? c with
    | some n => some n
    | none =>
      if 'a' ≤ c ∧ c ≤ 'z' then some (c.toNat - 87)
      else if 'A' ≤ c ∧ c ≤ 'Z' then some (c.toNat - 55)
      else none
  value?.filter (· < base)

/-- The letter that marks digits in a base, in lower case. -/
def baseMark? : Nat → Option Char
  | 2 => some 'b'
  | 8 => some 'o'
  | 16 => some 'x'
  | _ => none

/-- Reads digits behind those that spell `sum`; an underscore has to stand before a digit. -/
def readDigits? (base sum : Nat) : List Char → Option Nat
  | [] => some sum
  | '_' :: c :: rest => (digitIn? base c).bind fun d => readDigits? base (base * sum + d) rest
  | c :: rest => (digitIn? base c).bind fun d => readDigits? base (base * sum + d) rest

/-- Reads a number that begins with a digit. -/
def readNumeral? (base : Nat) : List Char → Option Nat
  | [] => none
  | c :: rest => (digitIn? base c).bind fun d => readDigits? base d rest

/-- Reads a number behind the mark of its base, which an underscore may follow. -/
def readMarked? (base : Nat) (s : List Char) : Option Nat :=
  match s with
  | '0' :: mark :: rest =>
    if some (Char.toLower mark) = baseMark? base then
      match rest with
      | '_' :: rest => readNumeral? base rest
      | rest => readNumeral? base rest
    else readNumeral? base s
  | s => readNumeral? base s

/-- The most digits that a number has in a base where reading is slow. -/
def mostDigits : Nat := 4300

/-- The wording of the refusal of a number of too many digits. -/
def tooLongMessage (count : Nat) : String :=
  "Exceeds the limit (" ++ String.ofList (digits 10 mostDigits) ++
    " digits) for integer string conversion: value has " ++ String.ofList (digits 10 count) ++
    " digits; use sys.set_int_max_str_digits() to increase the limit"

/-- Whether a text has more digits than are read in a base; only powers of two are read at any length. -/
def isTooLong (base : Nat) (s : List Char) : Bool :=
  (baseMark? base).isNone && mostDigits < s.countP fun c => c ≠ '_'

/-- The whole number that a text is written for in a base. -/
def readWhole? (base : Nat) (s : List Char) : Option Int :=
  let read (s : List Char) : Option Nat := if isTooLong base s then none else readMarked? base s
  match trim s with
  | '-' :: rest => (read rest).map fun n => -n
  | '+' :: rest => (read rest).map Int.ofNat
  | s => (read s).map Int.ofNat

end Stencil.Text
