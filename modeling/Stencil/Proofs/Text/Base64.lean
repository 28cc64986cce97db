import Stencil.Proofs.Text.Utf8
import Stencil.Text.Base64

/-!
# Reading back letters

The letters that bytes are written with are read as these bytes.
-/

namespace Stencil.Text.Base64

open Utf8 (byte byte_eq_iff)

theorem value?_letter : ∀ n < 64, letter n ≠ '=' ∧ value? (letter n) = some n := by
  decide

theorem decode_fill (s : List Char) : ('=' :: s).takeWhile (· ≠ '=') = [] := by
  rw [List.takeWhile_cons_of_neg (by simp)]

/-- The values of letters are those that they are written for, one after the other. -/
theorem values_letter_cons {n : Nat} (small : n < 64) (s : List Char) :
    ((letter n :: s).takeWhile (· ≠ '=')).filterMap value? =
      n :: (s.takeWhile (· ≠ '=')).filterMap value? := by
  obtain ⟨notFill, value⟩ := value?_letter n small
  rw [List.takeWhile_cons_of_pos (by simpa using notFill), List.filterMap_cons_some value]

/-- Bytes are read back from the letters that they are written with. -/
theorem decode_encode (bytes : Bytes) : decode (encode bytes) = bytes := by
  induction bytes using encode.induct with
  | case1 => rfl
  | case2 a =>
    have low := a.toNat_lt
    rw [encode, decode, values_letter_cons (by omega), values_letter_cons (by omega), decode_fill,
      List.filterMap_nil, pack]
    have first : byte (a.toNat / 4 * 4 + a.toNat % 4 * 16 / 16) = a := (byte_eq_iff (by omega)).mpr (by omega)
    rw [first]
  | case3 a b =>
    have lowA := a.toNat_lt
    have lowB := b.toNat_lt
    rw [encode, decode, values_letter_cons (by omega), values_letter_cons (by omega),
      values_letter_cons (by omega), decode_fill, List.filterMap_nil, pack]
    have first : byte (a.toNat / 4 * 4 + (a.toNat % 4 * 16 + b.toNat / 16) / 16) = a :=
      (byte_eq_iff (by omega)).mpr (by omega)
    have second : byte ((a.toNat % 4 * 16 + b.toNat / 16) % 16 * 16 + b.toNat % 16 * 4 / 4) = b :=
      (byte_eq_iff (by omega)).mpr (by omega)
    rw [first, second]
  | case4 a b c rest ih =>
    have lowA := a.toNat_lt
    have lowB := b.toNat_lt
    have lowC := c.toNat_lt
    rw [decode] at ih
    rw [encode, decode, values_letter_cons (by omega), values_letter_cons (by omega),
      values_letter_cons (by omega), values_letter_cons (by omega), pack, ih]
    have first : byte (a.toNat / 4 * 4 + (a.toNat % 4 * 16 + b.toNat / 16) / 16) = a :=
      (byte_eq_iff (by omega)).mpr (by omega)
    have second : byte ((a.toNat % 4 * 16 + b.toNat / 16) % 16 * 16 +
        (b.toNat % 16 * 4 + c.toNat / 64) / 4) = b := (byte_eq_iff (by omega)).mpr (by omega)
    have third : byte ((b.toNat % 16 * 4 + c.toNat / 64) % 4 * 64 + c.toNat % 64) = c :=
      (byte_eq_iff (by omega)).mpr (by omega)
    rw [first, second, third]

end Stencil.Text.Base64
