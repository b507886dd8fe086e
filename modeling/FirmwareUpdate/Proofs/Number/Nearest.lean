import FirmwareUpdate.Proofs.Number.Fraction

/-! How far rounding moves a number: to a whole number by a half at most, and to a binary64 number by
a half of its last place. Small whole numbers are not moved at all. -/

namespace FirmwareUpdate.Number

variable {num den m n : ℕ}

lemma halfEven_cases (num den : ℕ) :
    (2 * (num % den) ≤ den ∧ halfEven num den = num / den) ∨
      (den ≤ 2 * (num % den) ∧ halfEven num den = num / den + 1) := by
  have hparity := Nat.mod_two_eq_zero_or_one (num / den)
  rw [halfEven]
  split_ifs with hlow hhigh
  · exact .inl ⟨hlow.le, rfl⟩
  · exact .inr ⟨hhigh.le, rfl⟩
  · rcases hparity with h | h
    · exact .inl ⟨not_lt.mp hhigh, by rw [h, Nat.add_zero]⟩
    · exact .inr ⟨not_lt.mp hlow, by rw [h]⟩

lemma halfEven_near (hd : 0 < den) (num : ℕ) : |(halfEven num den : ℚ) - num / den| ≤ 1 / 2 := by
  have hdq : (0 : ℚ) < den := by exact_mod_cast hd
  have hnum : (num : ℚ) = den * (num / den : ℕ) + (num % den : ℕ) := by
    exact_mod_cast (Nat.div_add_mod num den).symm
  have hscaled : |(halfEven num den : ℚ) * den - num| ≤ 1 / 2 * den := by
    have hrest : ((num % den : ℕ) : ℚ) < den := by exact_mod_cast Nat.mod_lt num hd
    have hrest' : (0 : ℚ) ≤ (num % den : ℕ) := Nat.cast_nonneg _
    rw [hnum, abs_le]
    rcases halfEven_cases num den with ⟨hle, h⟩ | ⟨hle, h⟩
    · have hhalf : (2 : ℚ) * (num % den : ℕ) ≤ den := by exact_mod_cast hle
      rw [h]
      constructor <;> linarith
    · have hhalf : (den : ℚ) ≤ 2 * (num % den : ℕ) := by exact_mod_cast hle
      rw [h, Nat.cast_add_one]
      constructor <;> linarith
  have hshare : (halfEven num den : ℚ) - num / den = (halfEven num den * den - num) / den := by
    rw [sub_div, mul_div_cancel_right₀ _ hdq.ne']
  rw [hshare, abs_div, abs_of_pos hdq, div_le_iff₀ hdq]
  exact hscaled

lemma nearest_whole {x : ℚ} (h : |(m : ℚ) - x| ≤ 1 / 2) (n : ℕ) : |(m : ℚ) - x| ≤ |(n : ℚ) - x| := by
  by_cases hmn : m = n
  · rw [hmn]
  · have hstep : (1 : ℚ) ≤ |(n : ℚ) - m| := by
      have hint : (1 : ℤ) ≤ |(n : ℤ) - m| := Int.one_le_abs (by omega)
      exact_mod_cast hint
    have htri := abs_sub_le (n : ℚ) x m
    rw [abs_sub_comm x] at htri
    linarith

lemma whole_of_near (h : |(m : ℚ) - n| < 1) : m = n := by
  have hint : |(m : ℤ) - n| < 1 := by exact_mod_cast h
  have := Int.abs_lt_one_iff.mp hint
  omega

namespace Fraction

variable {x : Fraction}

lemma value_ofNat (n : ℕ) : (ofNat n).value = n := by
  rw [value, ofNat, Nat.cast_one, div_one]

lemma value_nonneg (x : Fraction) : 0 ≤ x.value :=
  div_nonneg (Nat.cast_nonneg _) (Nat.cast_nonneg _)

lemma rounded_near (hd : 0 < x.den) : |(x.rounded : ℚ) - x.value| ≤ 1 / 2 := by
  have hle := Nat.floor_le (add_nonneg x.value_nonneg (by norm_num : (0 : ℚ) ≤ 1 / 2))
  have hlt := Nat.lt_floor_add_one (x.value + 1 / 2)
  rw [rounded_eq hd, abs_le]
  constructor <;> linarith

lemma halfEven_value (hd : 0 < x.den) : |(halfEven x.num x.den : ℚ) - x.value| ≤ 1 / 2 :=
  halfEven_near hd x.num

lemma magnitude_le (hn : x.num ≠ 0) (hd : 0 < x.den) : (2 : ℚ) ^ x.magnitude ≤ x.value := by
  have hden : (0 : ℚ) < x.den := by exact_mod_cast hd
  rw [magnitude]
  split_ifs with h
  · rw [atLeast_iff (shift_den_pos hd _), value_shift, zpow_neg, ← div_eq_mul_inv,
      le_div_iff₀ (by positivity)] at h
    simpa using h
  · have hnum : ((2 ^ x.num.log2 : ℕ) : ℚ) ≤ x.num := by exact_mod_cast Nat.log2_self_le hn
    have hlt : (x.den : ℚ) ≤ (2 ^ (x.den.log2 + 1) : ℕ) := by
      exact_mod_cast (Nat.lt_log2_self (n := x.den)).le
    push_cast at hnum hlt
    have hpow : (2 : ℚ) ^ ((x.num.log2 : ℤ) - x.den.log2 - 1) * 2 ^ (x.den.log2 + 1) =
        2 ^ x.num.log2 := by
      rw [← zpow_natCast, ← zpow_natCast, ← zpow_add₀ two_ne_zero]
      congr 1
      push_cast
      ring
    rw [value, le_div_iff₀ hden]
    calc (2 : ℚ) ^ ((x.num.log2 : ℤ) - x.den.log2 - 1) * x.den
        ≤ 2 ^ ((x.num.log2 : ℤ) - x.den.log2 - 1) * 2 ^ (x.den.log2 + 1) := by gcongr
      _ = 2 ^ x.num.log2 := hpow
      _ ≤ x.num := hnum

end Fraction

namespace Binary

variable {x : Fraction}

def lastPlace (x : Fraction) : ℤ :=
  max (x.magnitude - 52) (-1074)

def steps (x : Fraction) : ℕ :=
  halfEven (x.shift (lastPlace x)).num (x.shift (lastPlace x)).den

lemma steps_near (hd : 0 < x.den) : |(steps x : ℚ) - x.value * 2 ^ (-lastPlace x)| ≤ 1 / 2 := by
  rw [← Fraction.value_shift]
  exact Fraction.halfEven_value (Fraction.shift_den_pos hd _)

lemma nearest_value (hn : x.num ≠ 0) : (nearest x).value = steps x * 2 ^ lastPlace x := by
  rw [nearest, if_neg hn]
  change (if steps x = 2 * leastNormal then Binary.mk leastNormal (lastPlace x + 1) else
    ⟨steps x, lastPlace x⟩).value = _
  split_ifs with h
  · -- one bit too many goes into the exponent
    rw [h, value, zpow_add_one₀ two_ne_zero]
    push_cast
    ring
  · rfl

lemma nearest_near_lastPlace (hn : x.num ≠ 0) (hd : 0 < x.den) :
    |(nearest x).value - x.value| ≤ 2 ^ lastPlace x / 2 := by
  have hpow : (0 : ℚ) < 2 ^ lastPlace x := by positivity
  have hvalue : x.value = x.value * 2 ^ (-lastPlace x) * 2 ^ lastPlace x := by
    rw [mul_assoc, ← zpow_add₀ two_ne_zero, neg_add_cancel, zpow_zero, mul_one]
  have hdiff : (nearest x).value - x.value =
      (steps x - x.value * 2 ^ (-lastPlace x)) * 2 ^ lastPlace x := by
    rw [sub_mul, ← hvalue, nearest_value hn]
  rw [hdiff, abs_mul, abs_of_pos hpow]
  calc |(steps x : ℚ) - x.value * 2 ^ (-lastPlace x)| * 2 ^ lastPlace x
      ≤ 1 / 2 * 2 ^ lastPlace x := by gcongr; exact steps_near hd
    _ = 2 ^ lastPlace x / 2 := by ring

lemma nearest_zero (hn : x.num = 0) : (nearest x).value = x.value := by
  rw [nearest, if_pos hn, Fraction.value, hn, Nat.cast_zero, zero_div, value, zero, Nat.cast_zero,
    zero_mul]

lemma nearest_near (hd : 0 < x.den) :
    |(nearest x).value - x.value| ≤ max (x.value / 2 ^ 53) (2 ^ (-1075 : ℤ)) := by
  by_cases hn : x.num = 0
  · rw [nearest_zero hn, sub_self, abs_zero]
    exact le_max_of_le_right (by positivity)
  · apply (nearest_near_lastPlace hn hd).trans
    rw [lastPlace]
    rcases max_choice (x.magnitude - 52) (-1074) with h | h
    · apply le_max_of_le_left
      have hle := Fraction.magnitude_le hn hd
      rw [h, zpow_sub₀ two_ne_zero, div_div]
      norm_num
      gcongr
    · apply le_max_of_le_right
      rw [h, div_eq_mul_inv, ← zpow_neg_one, ← zpow_add₀ two_ne_zero]
      norm_num

lemma nearest_near_of_le (hd : 0 < x.den) (h : 2 ^ (-1022 : ℤ) ≤ x.value) :
    |(nearest x).value - x.value| ≤ x.value / 2 ^ 53 := by
  have hpow : (2 : ℚ) ^ (-1075 : ℤ) = 2 ^ (-1022 : ℤ) / 2 ^ 53 := by
    rw [← zpow_natCast, ← zpow_sub₀ two_ne_zero]
    norm_num
  refine (nearest_near hd).trans (max_le le_rfl ?_)
  rw [hpow]
  gcongr

lemma nearest_near_of_large (hd : 0 < x.den) (h : 1 / 128 ≤ x.value) :
    |(nearest x).value - x.value| ≤ x.value / 2 ^ 53 := by
  apply nearest_near_of_le hd
  calc (2 : ℚ) ^ (-1022 : ℤ) ≤ 2 ^ (-7 : ℤ) := zpow_le_zpow_right₀ one_le_two (by norm_num)
    _ = 1 / 128 := by norm_num
    _ ≤ x.value := h

lemma value_nonneg (b : Binary) : 0 ≤ b.value :=
  mul_nonneg (Nat.cast_nonneg _) (by positivity)

lemma lastPlace_ofNat_le (hn : n ≠ 0) (h : n < 2 ^ 53) : lastPlace (.ofNat n) ≤ 0 := by
  have hle := Fraction.magnitude_le (x := .ofNat n) hn Nat.one_pos
  have hlt : (2 : ℚ) ^ (Fraction.ofNat n).magnitude < 2 ^ (53 : ℤ) := by
    rw [Fraction.value_ofNat] at hle
    exact hle.trans_lt (by exact_mod_cast h)
  have hbits := (zpow_lt_zpow_iff_right₀ one_lt_two).mp hlt
  rw [lastPlace]
  omega

lemma ofNat_value (h : n < 2 ^ 53) : (ofNat n).value = n := by
  by_cases hn : n = 0
  · rw [ofNat, nearest_zero hn, Fraction.value_ofNat]
  · -- the last place is a fraction of one, so that nothing is left to round
    obtain ⟨j, hj⟩ := Int.exists_eq_neg_ofNat (lastPlace_ofNat_le hn h)
    have hsteps : steps (.ofNat n) = n * 2 ^ j := by
      have hnear := steps_near (x := .ofNat n) Nat.one_pos
      rw [Fraction.value_ofNat, hj, neg_neg, zpow_natCast] at hnear
      apply whole_of_near
      push_cast
      exact hnear.trans_lt (by norm_num)
    rw [ofNat, nearest_value hn, hsteps, hj, zpow_neg, zpow_natCast]
    push_cast
    field_simp

end Binary

end FirmwareUpdate.Number
