import FirmwareUpdate.Proofs.Number.Fraction
import Mathlib

/-! The number behind the bits of a binary64 number: the fields that are read out of the bits are those
that the number is made of. -/

namespace FirmwareUpdate.Number

open Float.Model (Format UnpackedFloat)
open Float.Model.UnpackedFloat (unpack unpackExponent unpackMantissa unpackSign Sign)

def magnitude : UnpackedFloat → ℚ
  | .finite .positive m e _ => m * 2 ^ e
  | _ => 0

def amount (x : Float) : ℚ := magnitude x.toModel.unpack

def exponentField (n : ℕ) : ℕ := n / 0x10000000000000 % 2048

def fractionField (n : ℕ) : ℕ := n % 0x10000000000000

variable {b : BitVec 64}

lemma exponent_toNat (b : BitVec 64) :
    (@unpackExponent .binary64 b).toNat = exponentField b.toNat := by
  rw [unpackExponent, BitVec.toNat_cast, BitVec.extractLsb_toNat, Nat.shiftRight_eq_div_pow]
  rfl

lemma mantissa_toNat (b : BitVec 64) :
    (@unpackMantissa .binary64 b).toNat = fractionField b.toNat := by
  rw [unpackMantissa, BitVec.toNat_cast, BitVec.extractLsb_toNat, Nat.shiftRight_zero]
  rfl

lemma sign_eq (b : BitVec 64) : Sign.ofBitVec (@unpackSign .binary64 b) =
    if b.toNat < Binary.signBit then .positive else .negative := by
  have hsign : (@unpackSign .binary64 b).toNat = b.toNat / Binary.signBit % 2 := by
    rw [unpackSign, BitVec.toNat_cast, BitVec.extractLsb_toNat, Nat.shiftRight_eq_div_pow]
    rfl
  have hlt := b.isLt
  have hiff : @unpackSign .binary64 b = 0#1 ↔ b.toNat < Binary.signBit := by
    rw [← BitVec.toNat_inj, hsign]
    change b.toNat / 0x8000000000000000 % 2 = 0 ↔ b.toNat < 0x8000000000000000
    omega
  rw [Sign.ofBitVec]
  exact if_congr hiff rfl rfl

lemma special_iff : @unpackExponent .binary64 b = -1#11 ↔ exponentField b.toNat = 2047 := by
  rw [← BitVec.toNat_inj, exponent_toNat]
  rfl

lemma denormal_iff : @unpackExponent .binary64 b = 0#11 ↔ exponentField b.toNat = 0 := by
  rw [← BitVec.toNat_inj, exponent_toNat]
  rfl

lemma magnitude_negative (h : ¬ b.toNat < Binary.signBit) : magnitude (unpack .binary64 b) = 0 := by
  simp only [unpack, sign_eq, if_neg h]
  split_ifs <;> rfl

lemma magnitude_special (h : exponentField b.toNat = 2047) : magnitude (unpack .binary64 b) = 0 := by
  simp only [unpack, if_pos (special_iff.mpr h)]
  split_ifs <;> rfl

lemma magnitude_denormal (hpos : b.toNat < Binary.signBit) (h : exponentField b.toNat = 0) :
    magnitude (unpack .binary64 b) = fractionField b.toNat * 2 ^ (-1074 : ℤ) := by
  have hspecial : ¬ @unpackExponent .binary64 b = -1#11 := by
    rw [special_iff, h]
    decide
  simp only [unpack, sign_eq, if_pos hpos, if_neg hspecial, if_pos (denormal_iff.mpr h)]
  rw [← mantissa_toNat]
  split_ifs with hfraction
  · rw [hfraction]
    simp [magnitude]
  · rw [magnitude, exponent_toNat, h]
    rfl

lemma magnitude_normal (hpos : b.toNat < Binary.signBit) (hspecial : exponentField b.toNat ≠ 2047)
    (hnormal : exponentField b.toNat ≠ 0) :
    magnitude (unpack .binary64 b) =
      (fractionField b.toNat + Binary.leastNormal : ℕ) * 2 ^ ((exponentField b.toNat : ℤ) - 1075) := by
  -- the first bit of the mantissa is not stored
  have hmantissa : (1#1 ++ @unpackMantissa .binary64 b).toNat =
      fractionField b.toNat + Binary.leastNormal := by
    have hlt : fractionField b.toNat < 2 ^ 52 := Nat.mod_lt _ (by decide)
    rw [BitVec.toNat_append, mantissa_toNat]
    change 1 <<< 52 ||| fractionField b.toNat = _
    rw [← Nat.shiftLeft_add_eq_or_of_lt hlt, Nat.add_comm]
    rfl
  simp only [unpack, sign_eq, if_pos hpos, if_neg (mt special_iff.mp hspecial),
    if_neg (mt denormal_iff.mp hnormal)]
  rw [magnitude, hmantissa, exponent_toNat]
  rfl

lemma zero_value : Binary.zero.value = 0 := by
  rw [Binary.value, Binary.zero, Nat.cast_zero, zero_mul]

lemma exponentField_eq {n : ℕ} (h : n < Binary.signBit) :
    exponentField n = n % Binary.signBit / Binary.leastNormal := by
  change n < 0x8000000000000000 at h
  change n / 0x10000000000000 % 2048 = n % 0x8000000000000000 / 0x10000000000000
  omega

lemma fractionField_eq (n : ℕ) : fractionField n = n % Binary.signBit % Binary.leastNormal := by
  change n % 0x10000000000000 = n % 0x8000000000000000 % 0x10000000000000
  omega

lemma magnitude?_value (x : Float) : ((magnitude? x).getD .zero).value = amount x := by
  have hamount : amount x = magnitude (unpack .binary64 x.toBits.toBitVec) := rfl
  have hbits : x.toBits.toNat = x.toBits.toBitVec.toNat := rfl
  rw [hamount, magnitude?]
  by_cases hpos : x.toBits.toNat < Binary.signBit
  · rw [if_pos hpos, Binary.ofBits, ← exponentField_eq hpos, ← fractionField_eq]
    rw [hbits] at hpos ⊢
    by_cases hspecial : exponentField x.toBits.toBitVec.toNat = 2047
    · rw [if_pos hspecial, magnitude_special hspecial]
      exact zero_value
    · rw [if_neg hspecial]
      by_cases hdenormal : exponentField x.toBits.toBitVec.toNat = 0
      · rw [if_pos hdenormal, magnitude_denormal hpos hdenormal]
        rfl
      · rw [if_neg hdenormal, magnitude_normal hpos hspecial hdenormal]
        rfl
  · rw [if_neg hpos, magnitude_negative hpos]
    exact zero_value

end FirmwareUpdate.Number
