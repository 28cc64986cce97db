import Stencil.Text.Utf8

/-!
# Bytes as letters

Three bytes are written as four of sixty-four letters; a shorter last group is filled with equals signs.
Reading passes over characters that are not letters and ends at the filling.
-/

namespace Stencil.Text.Base64

/-- The letter of a value below 64. -/
def letter (n : Nat) : Char :=
  if n < 26 then Char.ofNat (65 + n)
  else if n < 52 then Char.ofNat (71 + n)
  else if n < 62 then Char.ofNat (n - 4)
  else if n = 62 then '+'
  else '/'

/-- The value of a letter. -/
def value? (c : Char) : Option Nat :=
  if 'A' ≤ c ∧ c ≤ 'Z' then some (c.toNat - 65)
  else if 'a' ≤ c ∧ c ≤ 'z' then some (c.toNat - 71)
  else if '0' ≤ c ∧ c ≤ '9' then some (c.toNat + 4)
  else if c = '+' then some 62
  else if c = '/' then some 63
  else none

/-- The letters of a sequence of bytes. -/
def encode : Bytes → List Char
  | [] => []
  | [a] => [letter (a.toNat / 4), letter (a.toNat % 4 * 16), '=', '=']
  | [a, b] =>
    [letter (a.toNat / 4), letter (a.toNat % 4 * 16 + b.toNat / 16), letter (b.toNat % 16 * 4), '=']
  | a :: b :: c :: rest =>
    letter (a.toNat / 4) :: letter (a.toNat % 4 * 16 + b.toNat / 16) ::
      letter (b.toNat % 16 * 4 + c.toNat / 64) :: letter (c.toNat % 64) :: encode rest

/-- The bytes of a sequence of letter values. -/
def pack : List Nat → Bytes
  | a :: b :: c :: d :: rest =>
    Utf8.byte (a * 4 + b / 16) :: Utf8.byte (b % 16 * 16 + c / 4) :: Utf8.byte (c % 4 * 64 + d) :: pack rest
  | [a, b, c] => [Utf8.byte (a * 4 + b / 16), Utf8.byte (b % 16 * 16 + c / 4)]
  | [a, b] => [Utf8.byte (a * 4 + b / 16)]
  | _ => []

/-- The bytes that letters are written for. -/
def decode (s : List Char) : Bytes :=
  pack ((s.takeWhile (· ≠ '=')).filterMap value?)

end Stencil.Text.Base64
