import FirmwareUpdate.Proofs.Text.Parts
import FirmwareUpdate.Proofs.Text.Trim
import Mathlib.Data.Rat.Lemmas
import Mathlib.Tactic

/-! Decimal numerals: digits, and perhaps more digits after a point. Zeros at the end of the decimals,
and a point that nothing follows, can be taken off without a change of the number. -/

namespace FirmwareUpdate.Text

variable {n : ℕ} {c : Char} {cs ds zeros : List Char}

lemma isDigit_of_mem_digits (h : c ∈ Nat.toDigits 10 n) : c.isDigit = true :=
  Nat.isDigit_of_mem_toDigits (by decide) (by decide) h

lemma notMem_digits (n : ℕ) (hc : c.isDigit = false) : c ∉ Nat.toDigits 10 n := by
  intro h
  rw [isDigit_of_mem_digits h] at hc
  cases hc

lemma digits_injective : Function.Injective (Nat.toDigits 10) := by
  intro m n h
  calc
    m = Nat.ofDigitChars 10 (Nat.toDigits 10 m) 0 := Nat.ofDigitChars_ten_toDigits.symm
    _ = Nat.ofDigitChars 10 (Nat.toDigits 10 n) 0 := by rw [h]
    _ = n := Nat.ofDigitChars_ten_toDigits

lemma digits_head_ne_zero (h : 0 < n) : (Nat.toDigits 10 n).head? ≠ some '0' := by
  induction n using Nat.strong_induction_on with
  | _ n ih =>
    rw [Nat.toDigits_eq_if (by decide)]
    split_ifs with hn
    · simp only [List.head?_cons, ne_eq, Option.some.injEq, Nat.digitChar_eq_zero]
      omega
    · rw [List.head?_append_of_ne_nil _ Nat.toDigits_ne_nil]
      exact ih (n / 10) (by omega) (by omega)

structure IsWhole (cs : List Char) : Prop where
  ne_nil : cs ≠ []
  digits : ∀ c ∈ cs, c.isDigit = true
  leading : cs.head? = some '0' → cs = ['0']

lemma isWhole_digits (n : ℕ) : IsWhole (Nat.toDigits 10 n) where
  ne_nil := Nat.toDigits_ne_nil
  digits _ hc := isDigit_of_mem_digits hc
  leading h := by
    rcases Nat.eq_zero_or_pos n with rfl | hn
    · rfl
    · exact absurd h (digits_head_ne_zero hn)

inductive Concise : List Char → Prop
  | whole {cs : List Char} (h : IsWhole cs) : Concise cs
  | decimal {cs ds : List Char} (h : IsWhole cs) (hne : ds ≠ []) (hd : ∀ c ∈ ds, c.isDigit = true)
      (hlength : ds.length ≤ 2) (hlast : ds.getLast? ≠ some '0') : Concise (cs ++ '.' :: ds)

def readWhole (cs : List Char) : Option ℕ :=
  if !cs.isEmpty && cs.all Char.isDigit then some (Nat.ofDigitChars 10 cs 0) else none

def readDecimal (cs : List Char) : Option ℚ :=
  match parts '.' cs with
  | [whole] => (readWhole whole).map fun n => (n : ℚ)
  | [whole, decimals] => do
      let n ← readWhole whole
      let d ← readWhole decimals
      return n + d / 10 ^ decimals.length
  | _ => none

lemma readWhole_of_digits (hne : cs ≠ []) (hd : ∀ c ∈ cs, c.isDigit = true) :
    readWhole cs = some (Nat.ofDigitChars 10 cs 0) := by
  have hempty : cs.isEmpty = false := List.isEmpty_eq_false_iff.mpr hne
  have hall : cs.all Char.isDigit = true := List.all_eq_true.mpr hd
  rw [readWhole, hempty, hall]
  rfl

lemma point_notMem (hd : ∀ c ∈ cs, c.isDigit = true) : '.' ∉ cs :=
  fun h => absurd (hd '.' h) (by decide)

def decimalPart (ds : List Char) : ℚ :=
  (Nat.ofDigitChars 10 ds 0 : ℚ) / 10 ^ ds.length

lemma decimalPart_append_zeros (hz : ∀ c ∈ zeros, c = '0') (ds : List Char) :
    decimalPart (ds ++ zeros) = decimalPart ds := by
  rw [List.eq_replicate_of_mem hz, decimalPart, decimalPart, Nat.ofDigitChars_append,
    Nat.ofDigitChars_replicate_zero, List.length_append, List.length_replicate, pow_add]
  push_cast
  field_simp

def pointed (cs ds : List Char) : List Char :=
  if ds = [] then cs else cs ++ '.' :: ds

lemma pointed_of_ne_nil (hne : ds ≠ []) (cs : List Char) : pointed cs ds = cs ++ '.' :: ds :=
  if_neg hne

lemma readDecimal_pointed (hc : IsWhole cs) (hd : ∀ c ∈ ds, c.isDigit = true) :
    readDecimal (pointed cs ds) = some (Nat.ofDigitChars 10 cs 0 + decimalPart ds) := by
  have hwhole := readWhole_of_digits hc.ne_nil hc.digits
  rw [pointed]
  split_ifs with hnil
  · rw [readDecimal, parts_of_notMem (point_notMem hc.digits), hnil]
    simp [hwhole, decimalPart]
  · have hparts : parts '.' (cs ++ '.' :: ds) = [cs, ds] := by
      rw [parts_append, parts_of_notMem (point_notMem hc.digits), parts_of_notMem (point_notMem hd)]
      rfl
    rw [readDecimal, hparts]
    simp only [hwhole, readWhole_of_digits hnil hd, Option.bind_eq_bind, Option.bind_some]
    rfl

lemma concise_pointed (hc : IsWhole cs) (hd : ∀ c ∈ ds, c.isDigit = true) (hlength : ds.length ≤ 2)
    (hlast : ds.getLast? ≠ some '0') : Concise (pointed cs ds) := by
  rw [pointed]
  split_ifs with hnil
  · exact .whole hc
  · exact .decimal hc hnil hd hlength hlast

lemma trimEnd_pointed (hc : ∀ c ∈ cs, c.isDigit = true) (hd : ∀ c ∈ ds, c.isDigit = true) :
    trimEnd (· == '.') (trimEnd (· == '0') (cs ++ '.' :: ds)) =
      pointed cs (trimEnd (· == '0') ds) := by
  obtain ⟨zeros, hds, -⟩ := trimEnd_split (· == '0') ds
  have hpoint : ∀ l : List Char, (∀ c ∈ l, c.isDigit = true) →
      ∀ c ∈ l.getLast?, (c == '.') = false := by
    intro l hl c hm
    rw [beq_eq_false_iff_ne]
    rintro rfl
    exact point_notMem hl (List.mem_of_getLast? hm)
  rw [trimEnd_keeps (by decide), pointed]
  split_ifs with hnil
  · have hone : ∀ c ∈ ['.'], (c == '.') = true := by simp
    rw [hnil, trimEnd_append_of_all hone]
    exact trimEnd_eq_self (hpoint cs hc)
  · apply trimEnd_eq_self
    rw [List.getLast?_append_cons, List.getLast?_cons_of_ne_nil hnil]
    apply hpoint
    intro c hm
    apply hd
    rw [hds]
    exact List.mem_append_left zeros hm

end FirmwareUpdate.Text
