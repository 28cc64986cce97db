import Stencil.Text.Hex

/-!
# Reading digits back

The decimal digits of a number spell it, so different numbers have different digits.
-/

namespace Stencil.Text

private theorem value_hexDigit : ∀ n < 10, (hexDigit n).toNat - 48 = n := by
  decide

private theorem foldl_digitsOnto (n : Nat) (acc : List Char) :
    (digitsOnto 10 n acc).foldl (fun n c => 10 * n + (c.toNat - 48)) 0 =
      acc.foldl (fun n c => 10 * n + (c.toNat - 48)) n := by
  induction n, acc using digitsOnto.induct 10 with
  | case1 n acc more induction =>
      have last := value_hexDigit (n % 10) (Nat.mod_lt n (by decide))
      have whole : 10 * (n / 10) + n % 10 = n := Nat.div_add_mod n 10
      rw [digitsOnto, dif_pos more, induction, List.foldl_cons, last, whole]
  | case2 n acc single =>
      have small : n < 10 := by omega
      have digit := value_hexDigit n small
      rw [digitsOnto, dif_neg single]
      simp [Nat.mod_eq_of_lt small, digit]

theorem natOfDigits_digits (n : Nat) : natOfDigits (digits 10 n) = n :=
  foldl_digitsOnto n []

theorem digits_injective : Function.Injective (digits 10) := by
  intro n m same
  rw [← natOfDigits_digits n, same, natOfDigits_digits]

theorem mem_digits {n : Nat} {c : Char} (known : c ∈ digits 10 n) : ∃ d < 10, c = hexDigit d := by
  have onto (n : Nat) (acc : List Char) (known : c ∈ digitsOnto 10 n acc) :
      c ∈ acc ∨ ∃ d < 10, c = hexDigit d := by
    fun_induction digitsOnto 10 n acc with
    | case1 n acc _ induction =>
        rcases induction known with known | digit
        · rcases List.mem_cons.mp known with rfl | known
          · exact .inr ⟨n % 10, Nat.mod_lt n (by decide), rfl⟩
          · exact .inl known
        · exact .inr digit
    | case2 n acc =>
        rcases List.mem_cons.mp known with rfl | known
        · exact .inr ⟨n % 10, Nat.mod_lt n (by decide), rfl⟩
        · exact .inl known
  exact (onto n [] known).resolve_left List.not_mem_nil

end Stencil.Text
