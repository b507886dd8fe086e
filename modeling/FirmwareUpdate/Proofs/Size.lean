import FirmwareUpdate.Proofs.Number.Float
import FirmwareUpdate.Proofs.Number.Nearest
import FirmwareUpdate.Proofs.Text.Numeral
import FirmwareUpdate.Size

/-! What the texts of sizes and rates say. The unit is the smallest in which the number stays below
1024, and the number is the size in that unit to two decimals, without a zero or a point to spare. -/

namespace FirmwareUpdate.Size

open Number
open Text (Concise concise_pointed decimalPart decimalPart_append_zeros isWhole_digits pointed
  pointed_of_ne_nil readDecimal readDecimal_pointed trimEnd_pointed)

variable {x : Fraction} {n : ℕ}

def decimals (n : ℕ) : List Char :=
  [Nat.digitChar (n / 10 % 10), Nat.digitChar (n % 10)]

lemma decimals_digits (n : ℕ) : ∀ c ∈ decimals n, c.isDigit = true := by
  have hdigit : ∀ k : ℕ, (Nat.digitChar (k % 10)).isDigit = true := by
    intro k
    rw [Nat.isDigit_digitChar, decide_eq_true_eq]
    exact Nat.mod_lt k (by decide)
  simp only [decimals, List.forall_mem_cons, hdigit, List.not_mem_nil, false_implies, implies_true,
    and_self]

lemma decimalPart_decimals (n : ℕ) : decimalPart (decimals n) = (n % 100 : ℕ) / 100 := by
  have hdigit : ∀ k : ℕ, (Nat.digitChar (k % 10)).toNat - '0'.toNat = k % 10 :=
    fun k => Nat.toNat_digitChar_sub_48_of_lt_ten (Nat.mod_lt k (by decide))
  have hvalue : Nat.ofDigitChars 10 (decimals n) 0 = n % 100 := by
    rw [decimals, Nat.ofDigitChars_cons, Nat.ofDigitChars_cons, Nat.ofDigitChars_nil, hdigit, hdigit]
    omega
  rw [decimalPart, hvalue]
  norm_num [decimals]

lemma twoDecimals_eq (n : ℕ) : twoDecimals n = pointed (Nat.toDigits 10 (n / 100)) (decimals n) :=
  (pointed_of_ne_nil (List.cons_ne_nil _ _) _).symm

lemma numeral_eq (n : ℕ) : numeral n =
    pointed (Nat.toDigits 10 (n / 100)) (Text.trimEnd (· == '0') (decimals n)) :=
  trimEnd_pointed (isWhole_digits _).digits (decimals_digits n)

lemma hundredths_split (n : ℕ) :
    ((n / 100 : ℕ) : ℚ) + (n % 100 : ℕ) / 100 = n / 100 := by
  have hsplit : (n : ℚ) = 100 * (n / 100 : ℕ) + (n % 100 : ℕ) := by
    exact_mod_cast (Nat.div_add_mod n 100).symm
  rw [hsplit]
  ring

lemma readDecimal_twoDecimals (n : ℕ) : readDecimal (twoDecimals n) = some ((n : ℚ) / 100) := by
  rw [twoDecimals_eq, readDecimal_pointed (isWhole_digits _) (decimals_digits n),
    Nat.ofDigitChars_ten_toDigits, decimalPart_decimals, hundredths_split]

lemma trimmed_decimals (n : ℕ) : ∃ zeros, decimals n = Text.trimEnd (· == '0') (decimals n) ++ zeros ∧
    ∀ c ∈ zeros, c = '0' := by
  obtain ⟨zeros, hsplit, hzeros⟩ := Text.trimEnd_split (· == '0') (decimals n)
  exact ⟨zeros, hsplit, fun c hc => beq_iff_eq.mp (hzeros c hc)⟩

lemma trimmed_digits (n : ℕ) :
    ∀ c ∈ Text.trimEnd (· == '0') (decimals n), c.isDigit = true := by
  obtain ⟨zeros, hsplit, -⟩ := trimmed_decimals n
  intro c hc
  apply decimals_digits n
  rw [hsplit]
  exact List.mem_append_left zeros hc

lemma readDecimal_numeral (n : ℕ) : readDecimal (numeral n) = readDecimal (twoDecimals n) := by
  obtain ⟨zeros, hsplit, hzeros⟩ := trimmed_decimals n
  rw [numeral_eq, twoDecimals_eq, readDecimal_pointed (isWhole_digits _) (trimmed_digits n),
    readDecimal_pointed (isWhole_digits _) (decimals_digits n)]
  conv_rhs => rw [hsplit, decimalPart_append_zeros hzeros]

lemma concise_numeral (n : ℕ) : Concise (numeral n) := by
  obtain ⟨zeros, hsplit, -⟩ := trimmed_decimals n
  have hlength := congrArg List.length hsplit
  rw [List.length_append] at hlength
  have hlast : (Text.trimEnd (· == '0') (decimals n)).getLast? ≠ some '0' := by
    intro h
    cases Text.trimEnd_last h
  rw [numeral_eq]
  refine concise_pointed (isWhole_digits _) (trimmed_digits n) ?_ hlast
  change 2 = _ at hlength
  omega

lemma numeral_whole (n : ℕ) : numeral (100 * n) = Nat.toDigits 10 n := by
  have hzero : decimals (100 * n) = ['0', '0'] := by
    have htens : 100 * n / 10 % 10 = 0 := by omega
    have hones : 100 * n % 10 = 0 := by omega
    rw [decimals, htens, hones]
    rfl
  rw [numeral_eq, hzero, Nat.mul_div_cancel_left n (by decide)]
  rfl

lemma nearest_hundredths (n : ℕ) :
    |(Binary.nearest ⟨n, 100⟩).value * 100 - n| ≤ n / 2 ^ 53 := by
  have hvalue : (Fraction.mk n 100).value = n / 100 := rfl
  have hnear : |(Binary.nearest ⟨n, 100⟩).value - n / 100| ≤ n / 100 / 2 ^ 53 := by
    rw [← hvalue]
    rcases Nat.eq_zero_or_pos n with rfl | hn
    · rw [Binary.nearest_zero rfl, sub_self, abs_zero]
      exact div_nonneg (Fraction.value_nonneg _) (by positivity)
    · apply Binary.nearest_near_of_large (Nat.succ_pos 99)
      have hone : (1 : ℚ) ≤ n := by exact_mod_cast hn
      rw [hvalue]
      linarith
  have hscale : (Binary.nearest ⟨n, 100⟩).value * 100 - n =
      ((Binary.nearest ⟨n, 100⟩).value - n / 100) * 100 := by ring
  rw [hscale, abs_mul, abs_of_pos (by norm_num : (0 : ℚ) < 100)]
  linarith

lemma hundredths_cases (x : Fraction) :
    ∃ n : ℕ, |(n : ℚ) - (Binary.nearest (x.times 100)).value| ≤ 1 / 2 ∧
      |(hundredths x : ℚ) - n| ≤ n / 2 ^ 52 := by
  let n := (Binary.nearest (x.times 100)).fraction.rounded
  let y := (Binary.nearest ⟨n, 100⟩).fraction.times 100
  have hn := Fraction.rounded_near (Binary.fraction_den_pos (Binary.nearest (x.times 100)))
  have hy : y.value = (Binary.nearest ⟨n, 100⟩).value * 100 := by
    rw [Fraction.value_times, Binary.fraction_value, Nat.cast_ofNat]
  have hden : 0 < y.den := Binary.fraction_den_pos (Binary.nearest ⟨n, 100⟩)
  have hh : hundredths x = halfEven y.num y.den := rfl
  have hnear := nearest_hundredths n
  have hwhole := nearest_whole (Fraction.halfEven_value hden) n
  have htri := abs_sub_le (hundredths x : ℚ) y.value n
  rw [Binary.fraction_value] at hn
  rw [← hy] at hnear
  rw [← hh, abs_sub_comm (n : ℚ)] at hwhole
  refine ⟨n, hn, ?_⟩
  linarith

lemma value_hundredfold (x : Fraction) : (x.times 100).value = 100 * x.value := by
  rw [Fraction.value_times, Nat.cast_ofNat, mul_comm]

lemma hundredths_tiny (hd : 0 < x.den) (h : x.value < 1 / 1000) : hundredths x = 0 := by
  obtain ⟨n, hn, hh⟩ := hundredths_cases x
  have hnear := Binary.nearest_near (x := x.times 100) hd
  have hbound : max ((x.times 100).value / 2 ^ 53) (2 ^ (-1075 : ℤ)) ≤ (1 / 10 : ℚ) := by
    have hpow : (2 : ℚ) ^ (-1075 : ℤ) ≤ 2 ^ (-4 : ℤ) := zpow_le_zpow_right₀ one_le_two (by norm_num)
    rw [value_hundredfold]
    exact max_le (by linarith) (hpow.trans (by norm_num))
  have hclose := abs_le.mp (hnear.trans hbound)
  rw [value_hundredfold] at hclose
  have hzero : n = 0 := by
    apply whole_of_near (n := 0)
    rw [abs_le] at hn
    rw [Nat.cast_zero, sub_zero, Nat.abs_cast]
    linarith
  rw [hzero, Nat.cast_zero, zero_div, sub_zero] at hh
  exact_mod_cast abs_nonpos_iff.mp hh

lemma hundredths_near (hd : 0 < x.den) :
    |(hundredths x : ℚ) - 100 * x.value| ≤ 1 / 2 + 100 * x.value / 2 ^ 51 := by
  have hx := x.value_nonneg
  by_cases htiny : x.value < 1 / 1000
  · rw [hundredths_tiny hd htiny, Nat.cast_zero, abs_le]
    constructor <;> linarith
  · obtain ⟨n, hn, hh⟩ := hundredths_cases x
    have hnear := Binary.nearest_near_of_large (x := x.times 100) hd
    rw [value_hundredfold] at hnear
    have hclose := abs_le.mp (hnear (by linarith))
    rw [abs_le] at hn
    by_cases hfew : n < 2 ^ 51
    · -- so few hundredths are read again as they were
      have hfew' : (n : ℚ) < 2 ^ 51 := by exact_mod_cast hfew
      have hsame : hundredths x = n := whole_of_near (hh.trans_lt (by linarith))
      rw [hsame, abs_le]
      constructor <;> linarith
    · have hmany : (2 : ℚ) ^ 51 ≤ n := by exact_mod_cast not_lt.mp hfew
      have hagain := abs_le.mp hh
      rw [abs_le]
      constructor <;> linarith

lemma inUnit_cons (x : Fraction) (u v : String) (us : List String) :
    inUnit x (u :: v :: us) =
      if x.atLeast 1024 then inUnit (x.dividedBy 1024) (v :: us) else (x, u) := rfl

lemma inUnit_cases (hd : 0 < x.den) {us : List String} (hne : us ≠ []) :
    ∃ k, us[k]? = some (inUnit x us).2 ∧ 0 < (inUnit x us).1.den ∧
      (inUnit x us).1.value = x.value / 1024 ^ k ∧ (k = 0 ∨ 1024 ^ k ≤ x.value) ∧
      (k + 1 = us.length ∨ x.value < 1024 ^ (k + 1)) := by
  induction us generalizing x with
  | nil => exact absurd rfl hne
  | cons u us ih =>
    cases us with
    | nil => exact ⟨0, rfl, hd, by simp [inUnit], .inl rfl, .inl rfl⟩
    | cons v us =>
      rw [inUnit_cons]
      split_ifs with h
      · have hd' : 0 < (x.dividedBy 1024).den := Nat.mul_pos hd (by decide)
        have hvalue : (x.dividedBy 1024).value = x.value / 1024 := Fraction.value_dividedBy x 1024
        obtain ⟨k, hk, hden, hscaled, hlow, hhigh⟩ := ih hd' (List.cons_ne_nil v us)
        rw [Fraction.atLeast_iff hd] at h
        rw [hvalue] at hscaled hlow hhigh
        refine ⟨k + 1, hk, hden, ?_, .inr ?_, ?_⟩
        · rw [hscaled, div_div, pow_succ']
        · rcases hlow with rfl | hlow
          · simpa using h
          · rw [le_div_iff₀ (by norm_num)] at hlow
            rwa [pow_succ]
        · rcases hhigh with hlast | hhigh
          · exact .inl (congrArg (· + 1) hlast)
          · rw [div_lt_iff₀ (by norm_num)] at hhigh
            exact .inr (by rwa [pow_succ])
      · rw [Fraction.atLeast_iff hd, not_le] at h
        exact ⟨0, rfl, hd, by simp, .inl rfl, .inr (by simpa using h)⟩

/-- A text that shows a size: a concise numeral, and the unit in which the size is that number but for
half a hundredth and what binary numbers do not tell apart. -/
inductive Shows : String → ℚ → Prop
  | intro {size q : ℚ} {number : List Char} {unit : String} (k : ℕ)
      (hunit : ["B", "KB", "MB", "GB"][k]? = some unit) (hlow : k = 0 ∨ 1024 ^ k ≤ size)
      (hhigh : k = 3 ∨ size < 1024 ^ (k + 1)) (hconcise : Concise number)
      (hread : readDecimal number = some q)
      (hnear : |q - size / 1024 ^ k| ≤ 1 / 200 + size / 1024 ^ k / 2 ^ 50) :
      Shows (String.ofList number ++ " " ++ unit) size

lemma scaled_cases (b : Binary) : ∃ k n unit, scaled b = String.ofList (numeral n) ++ " " ++ unit ∧
    ["B", "KB", "MB", "GB"][k]? = some unit ∧ (k = 0 ∨ 1024 ^ k ≤ b.value) ∧
    (k = 3 ∨ b.value < 1024 ^ (k + 1)) ∧
    |(n : ℚ) / 100 - b.value / 1024 ^ k| ≤ 1 / 200 + b.value / 1024 ^ k / 2 ^ 51 := by
  by_cases hzero : b.mantissa = 0
  · have hvalue : b.value = 0 := by
      rw [Binary.value, hzero, Nat.cast_zero, zero_mul]
    rw [scaled, if_pos hzero, hvalue]
    exact ⟨0, 0, "B", rfl, rfl, .inl rfl, .inr (by norm_num), by norm_num⟩
  · have hunits : units ≠ [] := List.cons_ne_nil _ _
    obtain ⟨k, hunit, hden, hscaled, hlow, hhigh⟩ := inUnit_cases (Binary.fraction_den_pos b) hunits
    have hnear := hundredths_near hden
    rw [Binary.fraction_value] at hscaled hlow hhigh
    rw [hscaled, abs_le] at hnear
    rw [scaled, if_neg hzero]
    refine ⟨k, hundredths (inUnit b.fraction units).1, (inUnit b.fraction units).2, rfl, hunit, hlow,
      hhigh.imp_left Nat.succ.inj, ?_⟩
    rw [abs_le]
    constructor <;> linarith

lemma numeral_shows {k : ℕ} {size : ℚ} {unit : String}
    (hunit : ["B", "KB", "MB", "GB"][k]? = some unit) (hlow : k = 0 ∨ 1024 ^ k ≤ size)
    (hhigh : k = 3 ∨ size < 1024 ^ (k + 1))
    (hnear : |(n : ℚ) / 100 - size / 1024 ^ k| ≤ 1 / 200 + size / 1024 ^ k / 2 ^ 50) :
    Shows (String.ofList (numeral n) ++ " " ++ unit) size := by
  have hread : readDecimal (numeral n) = some ((n : ℚ) / 100) := by
    rw [readDecimal_numeral, readDecimal_twoDecimals]
  exact .intro k hunit hlow hhigh (concise_numeral n) hread hnear

lemma scaled_shows (b : Binary) : Shows (scaled b) b.value := by
  obtain ⟨k, n, unit, htext, hunit, hlow, hhigh, hnear⟩ := scaled_cases b
  have hpos : 0 ≤ b.value / 1024 ^ k := div_nonneg b.value_nonneg (by positivity)
  rw [htext]
  exact numeral_shows hunit hlow hhigh (hnear.trans (by linarith))

lemma text_shows (bytes : ℕ) : Shows (text bytes) bytes := by
  by_cases hexact : bytes < 2 ^ 53
  · have h := scaled_shows (.ofNat bytes)
    rwa [Binary.ofNat_value hexact] at h
  · obtain ⟨k, n, unit, htext, hunit, -, hhigh, hnear⟩ := scaled_cases (.ofNat bytes)
    have hlarge : (2 : ℚ) ^ 53 ≤ bytes := by exact_mod_cast not_lt.mp hexact
    have hround := Binary.nearest_near_of_large (x := .ofNat bytes) Nat.one_pos
    rw [Fraction.value_ofNat] at hround
    have hrounded : _ ∧ (Binary.ofNat bytes).value - bytes ≤ _ :=
      abs_le.mp (hround (le_trans (by norm_num) hlarge))
    have hk : k < 4 := (List.getElem?_eq_some_iff.mp hunit).1
    obtain rfl : k = 3 := by
      rcases hhigh with h | h
      · exact h
      · by_contra hne
        have hpow : (1024 : ℚ) ^ (k + 1) ≤ 1024 ^ 3 :=
          pow_le_pow_right₀ (by norm_num) (by omega)
        linarith
    rw [abs_le] at hnear
    rw [text, htext]
    refine numeral_shows hunit (.inr (le_trans (by norm_num) hlarge)) (.inl rfl) ?_
    rw [abs_le]
    constructor <;> linarith

/-- The texts of sizes and rates show them. The zeros that are taken off two decimals do not change the
number, and a whole number keeps all its digits. -/
theorem texts_concise :
    (∀ bytes : ℕ, Shows (text bytes) bytes) ∧
    (∀ rate : Float, ∃ size, rateText rate = size ++ "/s" ∧ Shows size (amount rate)) ∧
    ∀ n : ℕ, readDecimal (numeral n) = readDecimal (twoDecimals n) ∧
      readDecimal (twoDecimals n) = some ((n : ℚ) / 100) ∧ numeral (100 * n) = Nat.toDigits 10 n := by
  refine ⟨text_shows, fun rate => ?_, fun n => ?_⟩
  · refine ⟨scaled ((magnitude? rate).getD .zero), rfl, ?_⟩
    rw [← magnitude?_value]
    exact scaled_shows _
  · exact ⟨readDecimal_numeral n, readDecimal_twoDecimals n, numeral_whole n⟩

example : text 1234567 = "1.18 MB" ∧ text 1000 = "1000 B" := by decide +kernel

end FirmwareUpdate.Size
