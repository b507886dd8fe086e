import FirmwareUpdate.Number.Fraction
import Mathlib.Algebra.Order.Floor.Semifield
import Mathlib.Data.Rat.Floor
import Mathlib.Tactic

/-! The rational numbers that fractions and binary64 numbers stand for. -/

namespace FirmwareUpdate.Number

namespace Fraction

variable {x : Fraction}

def value (x : Fraction) : ℚ := x.num / x.den

lemma value_times (x : Fraction) (n : ℕ) : (x.times n).value = x.value * n := by
  simp only [times, value, Nat.cast_mul]
  ring

lemma value_dividedBy (x : Fraction) (n : ℕ) : (x.dividedBy n).value = x.value / n := by
  simp only [dividedBy, value, Nat.cast_mul, div_div]

lemma value_shift (x : Fraction) (e : ℤ) : (x.shift e).value = x.value * 2 ^ (-e) := by
  cases e with
  | ofNat n =>
    rw [shift, value_dividedBy, Nat.pow_eq, Nat.cast_pow, Nat.cast_ofNat, Int.ofNat_eq_natCast,
      zpow_neg, zpow_natCast, div_eq_mul_inv]
  | negSucc n =>
    rw [shift, value_times, Nat.pow_eq, Nat.cast_pow, Nat.cast_ofNat, Int.neg_negSucc, zpow_natCast]

lemma shift_den_pos (h : 0 < x.den) (e : ℤ) : 0 < (x.shift e).den := by
  cases e with
  | ofNat n => exact Nat.mul_pos h (Nat.two_pow_pos n)
  | negSucc n => exact h

lemma atLeast_iff (h : 0 < x.den) (n : ℕ) : x.atLeast n = true ↔ n ≤ x.value := by
  have hd : (0 : ℚ) < x.den := by exact_mod_cast h
  rw [atLeast, decide_eq_true_eq, value, le_div_iff₀ hd]
  exact_mod_cast Iff.rfl

lemma rounded_eq (h : 0 < x.den) : x.rounded = ⌊x.value + 1 / 2⌋₊ := by
  have hd : (x.den : ℚ) ≠ 0 := by exact_mod_cast h.ne'
  have hvalue : x.value + 1 / 2 = ((2 * x.num + x.den : ℕ) : ℚ) / (2 * x.den : ℕ) := by
    rw [value]
    push_cast
    field_simp
  rw [hvalue, Nat.floor_div_eq_div, rounded, halfUp]

end Fraction

namespace Binary

def value (b : Binary) : ℚ := b.mantissa * 2 ^ b.exponent

lemma fraction_value (b : Binary) : b.fraction.value = b.value := by
  rw [fraction, Fraction.value_shift, neg_neg, value, Fraction.value, Fraction.ofNat, Nat.cast_one,
    div_one]

lemma fraction_den_pos (b : Binary) : 0 < b.fraction.den :=
  Fraction.shift_den_pos Nat.one_pos _

end Binary

end FirmwareUpdate.Number
