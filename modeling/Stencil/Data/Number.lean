import Stencil.Data.Form

/-!
# Numbers of either kind

A number of a policy or a limit is whole or binary, as it was written.  Whole numbers stay whole as long as
they meet whole numbers only.
-/

namespace Stencil.Data

open Decimal (Binary64)

/-- A number that is whole or binary. -/
inductive Number
  /-- A whole number. -/
  | whole (n : Int)
  /-- A binary number. -/
  | binary (x : Binary64)
deriving DecidableEq, Repr

namespace Number

/-- The binary number of a number; a whole number beyond all binary numbers has none. -/
def toBinary? : Number → Option Binary64
  | whole n =>
    match Binary64.ofInt n with
    | .infinite _ => none
    | x => some x
  | binary x => some x

/-- The product of two numbers, which is whole when both are. -/
def mul? : Number → Number → Option Number
  | whole n, whole m => some (whole (n * m))
  | a, b => do
    let x ← a.toBinary?
    let y ← b.toBinary?
    return binary (x.mul y)

/-- The text of a number. -/
def text : Number → String
  | whole n => intText n
  | binary x => x.text

/-- A number with a fixed number of places. -/
def fixedText? (places : Nat) (n : Number) : Option String :=
  n.toBinary?.map (·.fixedText places)

end Number

end Stencil.Data
