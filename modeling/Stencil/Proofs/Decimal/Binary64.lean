import Mathlib.Tactic.Ring
import Stencil.Decimal.Binary64

/-!
# Whole numbers as binary numbers

A whole number is nearest to a finite binary number exactly if it is not half a last place or more beyond the
greatest one.
-/

namespace Stencil.Decimal

/-- A quotient below an even number is rounded to it from half a unit below it on. -/
theorem roundQuotient_eq_iff {num half top : Nat} (even : top % 2 = 0) (below : num < top * (2 * half)) :
    roundQuotient num (2 * half) = top ↔ top * (2 * half) ≤ num + half := by
  have positive : 0 < 2 * half := by
    by_contra zero
    simp [Nat.eq_zero_of_not_pos zero] at below
  have whole := Nat.div_add_mod num (2 * half)
  have less : num % (2 * half) < 2 * half := Nat.mod_lt num positive
  have most : num / (2 * half) < top := Nat.div_lt_of_lt_mul (Nat.mul_comm top _ ▸ below)
  rw [roundQuotient]
  generalize num / (2 * half) = q at *
  generalize num % (2 * half) = r at *
  by_cases last : q + 1 = top
  · have unit : top * (2 * half) = 2 * half * q + 2 * half := by rw [← last]; ring
    split_ifs <;> omega
  · have units : 2 * half * q + 2 * (2 * half) ≤ top * (2 * half) := by
      calc
        2 * half * q + 2 * (2 * half) = (q + 2) * (2 * half) := by ring
        _ ≤ top * (2 * half) := Nat.mul_le_mul_right _ (by omega)
    split_ifs <;> omega

namespace Binary64

theorem exponentOf_one {n : Nat} (some : n ≠ 0) : exponentOf n 1 = (n.log2 : Int) - 52 := by
  have least := Nat.log2_self_le some
  have one : Nat.log2 1 = 0 := by decide
  have long : ¬scaledNumerator n (-((n.log2 : Int) - 52)) <
      leadingBit * (1 * scaledDenominator (-((n.log2 : Int) - 52))) := by
    rw [scaledNumerator, scaledDenominator, leadingBit, Nat.pow_eq, Nat.pow_eq, Nat.not_lt, Nat.one_mul]
    rcases Nat.le_total 52 n.log2 with large | small
    · have up : (-((n.log2 : Int) - 52)).toNat = 0 := by omega
      have down : (- -((n.log2 : Int) - 52)).toNat = n.log2 - 52 := by omega
      rw [up, down, Nat.pow_zero, Nat.mul_one]
      calc
        4503599627370496 * 2 ^ (n.log2 - 52) = 2 ^ (52 + (n.log2 - 52)) := by rw [Nat.pow_add]
        _ = 2 ^ n.log2 := by rw [Nat.add_sub_cancel' large]
        _ ≤ n := least
    · have up : (-((n.log2 : Int) - 52)).toNat = 52 - n.log2 := by omega
      have down : (- -((n.log2 : Int) - 52)).toNat = 0 := by omega
      rw [up, down, Nat.pow_zero, Nat.mul_one]
      calc
        4503599627370496 = 2 ^ (n.log2 + (52 - n.log2)) := by rw [Nat.add_sub_cancel' small]
        _ = 2 ^ n.log2 * 2 ^ (52 - n.log2) := Nat.pow_add _ _ _
        _ ≤ n * 2 ^ (52 - n.log2) := Nat.mul_le_mul_right _ least
  have guess : (n.log2 : Int) - (Nat.log2 1 : Nat) - 52 = (n.log2 : Int) - 52 := by rw [one]; omega
  rw [exponentOf, guess, if_neg long, leastExponent]
  omega

theorem exists_finite_ofQuotient_iff {negative : Bool} {num den : Nat} (some : num ≠ 0) :
    (∃ sign m e, ofQuotient negative num den = .finite sign m e) ↔
      (if mantissaAt num den (exponentOf num den) = 2 * leadingBit then exponentOf num den + 1
        else exponentOf num den) ≤ greatestExponent := by
  rw [ofQuotient, if_neg some]
  simp only []
  by_cases beyond : greatestExponent <
      if mantissaAt num den (exponentOf num den) = 2 * leadingBit then exponentOf num den + 1
      else exponentOf num den
  · rw [if_pos beyond]
    exact iff_of_false (by simp) (by omega)
  · rw [if_neg beyond]
    exact iff_of_true ⟨_, _, _, rfl⟩ (by omega)

/-- Whether a whole number is half a last place or more beyond the greatest binary number. -/
def Exceeds (n : Int) : Prop :=
  2 ^ 1024 ≤ n.natAbs + 2 ^ 970

/-- The number nearest to a whole number is finite unless that exceeds all of them. -/
theorem exists_finite_ofInt_iff {n : Int} :
    (∃ negative m e, ofInt n = .finite negative m e) ↔ ¬Exceeds n := by
  rw [Exceeds, Nat.not_le]
  -- The powers are kept from being computed.
  obtain ⟨unit, isUnit⟩ : ∃ unit, unit = 970 := ⟨_, rfl⟩
  have size : 1024 = unit + 54 := by omega
  rw [size, ← isUnit]
  have top : 2 ^ (unit + 54) = 9007199254740992 * (2 * 2 ^ unit) := by ring
  have lower : 2 ^ (unit + 53) = 4503599627370496 * (2 * 2 ^ unit) := by ring
  have positive : 0 < 2 ^ unit := Nat.two_pow_pos unit
  by_cases zero : n.natAbs = 0
  · rw [ofInt, ofQuotient, if_pos zero, zero]
    exact iff_of_true ⟨_, _, _, rfl⟩ (by omega)
  rw [ofInt, exists_finite_ofQuotient_iff zero, exponentOf_one zero, greatestExponent]
  rcases Nat.lt_trichotomy n.natAbs.log2 (unit + 53) with small | last | large
  · have below : n.natAbs < 2 ^ (unit + 53) := (Nat.log2_lt zero).mp small
    refine iff_of_true ?_ (by omega)
    split_ifs <;> omega
  · have below : n.natAbs < 2 ^ (unit + 54) := (Nat.log2_lt zero).mp (by omega)
    have place : (n.natAbs.log2 : Int) - 52 = (unit + 1 : Nat) := by omega
    have mantissa : mantissaAt n.natAbs 1 (unit + 1 : Nat) = roundQuotient n.natAbs (2 * 2 ^ unit) := by
      have none : (-((unit + 1 : Nat) : Int)).toNat = 0 := by omega
      rw [← Nat.pow_succ', mantissaAt, scaledNumerator, scaledDenominator, none, Int.neg_neg]
      simp
    have carried := roundQuotient_eq_iff (by rfl) (top ▸ below)
    rw [place, mantissa, leadingBit]
    split_ifs <;> omega
  · have beyond : 2 ^ (unit + 54) ≤ n.natAbs := (Nat.le_log2 zero).mp large
    refine iff_of_false ?_ (by omega)
    split_ifs <;> omega

end Binary64

end Stencil.Decimal
