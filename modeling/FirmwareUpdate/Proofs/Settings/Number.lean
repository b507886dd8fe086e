import FirmwareUpdate.Proofs.Json.Written
import FirmwareUpdate.Proofs.Text.Trim
import FirmwareUpdate.Settings

/-! The numbers that a variable may hold: blanks, a plus sign or none, at least one digit, blanks. The
reader of variables takes these and no others, as far as they are not too large. -/

namespace FirmwareUpdate.Settings

open Text (isBlank)

variable {cs ds : List Char} {greatest m n : ℕ}

inductive Spells : List Char → ℕ → Prop
  | intro {front sign digits back : List Char} (hblank : ∀ c ∈ front ++ back, isBlank c = true)
      (hsign : sign = [] ∨ sign = ['+']) (hne : digits ≠ [])
      (hdigits : ∀ c ∈ digits, c.isDigit = true) :
      Spells (front ++ (sign ++ digits) ++ back) (Nat.ofDigitChars 10 digits 0)

lemma readDigits_iff (hm : m ≤ greatest) :
    readDigits greatest m ds = .ok n ↔
      (∀ c ∈ ds, c.isDigit = true) ∧ n = Nat.ofDigitChars 10 ds m ∧ n ≤ greatest := by
  induction ds generalizing m with
  | nil =>
    simp only [readDigits, Except.ok.injEq, List.not_mem_nil, false_implies, implies_true, true_and]
    constructor
    · rintro rfl
      exact ⟨rfl, hm⟩
    · rintro ⟨rfl, -⟩
      rfl
  | cons c ds ih =>
    have hc : m * 10 + (c.toNat - 48) = 10 * m + (c.toNat - '0'.toNat) := by
      rw [Nat.mul_comm]
      rfl
    rw [readDigits, Nat.ofDigitChars_cons, ← hc]
    by_cases hd : c.isDigit = true
    · rw [if_pos hd]
      by_cases hle : m * 10 + (c.toNat - 48) ≤ greatest
      · rw [if_pos hle, ih hle]
        simp [hd]
      · rw [if_neg hle]
        refine iff_of_false (by simp) ?_
        rintro ⟨-, rfl, hn⟩
        exact hle ((Json.le_ofDigitChars ds _).trans hn)
    · rw [if_neg hd]
      refine iff_of_false (by simp) ?_
      rintro ⟨hall, -⟩
      exact hd (hall c List.mem_cons_self)

lemma isDigit_not_blank {c : Char} (h : c.isDigit = true) : isBlank c = false := by
  simp only [Char.isDigit, Bool.and_eq_true, decide_eq_true_eq, UInt32.le_iff_toNat_le] at h
  have h0 : '0'.val.toNat = 48 := rfl
  have h9 : '9'.val.toNat = 57 := rfl
  have hc : c.val.toNat = c.toNat := rfl
  simp only [isBlank, Bool.or_eq_false_iff, Bool.and_eq_false_iff, decide_eq_false_iff_not,
    beq_eq_false_iff_ne]
  omega

lemma trim_number {front sign back : List Char} (hblank : ∀ c ∈ front ++ back, isBlank c = true)
    (hsign : sign = [] ∨ sign = ['+']) (hne : ds ≠ []) (hd : ∀ c ∈ ds, c.isDigit = true) :
    Text.trim (front ++ (sign ++ ds) ++ back) = sign ++ ds := by
  apply Text.trim_eq hblank
  · intro c hc
    rcases hsign with rfl | rfl
    · exact isDigit_not_blank (hd c (List.mem_of_mem_head? hc))
    · obtain rfl : '+' = c := Option.some.inj hc
      rfl
  · intro c hc
    rw [List.getLast?_append_of_ne_nil _ hne] at hc
    exact isDigit_not_blank (hd c (List.mem_of_getLast? hc))

lemma readNumber_of_trim {sign : List Char} {s : String} (hsign : sign = [] ∨ sign = ['+'])
    (hne : ds ≠ []) (hfirst : ∀ c ∈ ds.head?, c ≠ '+') (ht : Text.trim s.toList = sign ++ ds) :
    readNumber greatest s = readDigits greatest 0 ds := by
  cases ds with
  | nil => exact absurd rfl hne
  | cons c ds =>
    have hc : c ≠ '+' := hfirst c rfl
    rcases hsign with rfl | rfl
    · simp only [readNumber, ht, List.nil_append]
      split
      · rename_i h
        cases h
      · rename_i h
        exact absurd (List.cons.inj h).1 hc
      · rename_i h
        exact absurd (List.cons.inj h).1 hc
      · rfl
    · simp only [readNumber, ht, List.singleton_append]

lemma isDigit_ne_plus (hd : ∀ c ∈ ds, c.isDigit = true) : ∀ c ∈ ds.head?, c ≠ '+' := by
  rintro c hc rfl
  cases hd '+' (List.mem_of_mem_head? hc)

lemma readNumber_spelled {s : String} (h : Spells s.toList n) (hn : n ≤ greatest) :
    readNumber greatest s = .ok n := by
  generalize hs : s.toList = cs at h
  obtain @⟨front, sign, digits, back, hblank, hsign, hne, hd⟩ := h
  have ht : Text.trim s.toList = sign ++ digits := by
    rw [hs, trim_number hblank hsign hne hd]
  rw [readNumber_of_trim hsign hne (isDigit_ne_plus hd) ht, readDigits_iff (Nat.zero_le _)]
  exact ⟨hd, rfl, hn⟩

lemma spells_of_readNumber {s : String} (h : readNumber greatest s = .ok n) :
    Spells s.toList n ∧ n ≤ greatest := by
  obtain ⟨front, back, hs, hblank⟩ := Text.trim_split s.toList
  have hspells : ∀ sign digits, Text.trim s.toList = sign ++ digits → sign = [] ∨ sign = ['+'] →
      digits ≠ [] → readDigits greatest 0 digits = .ok n → Spells s.toList n ∧ n ≤ greatest := by
    intro sign digits ht hsign hne hr
    obtain ⟨hd, rfl, hn⟩ := (readDigits_iff (Nat.zero_le _)).mp hr
    rw [hs, ht]
    exact ⟨.intro hblank hsign hne hd, hn⟩
  unfold readNumber at h
  split at h
  · cases h
  · cases h
  · rename_i digits hne ht
    exact hspells ['+'] digits ht (.inr rfl) hne h
  · rename_i hnil _ _
    exact hspells [] _ rfl (.inl rfl) hnil h

theorem readNumber_iff {s : String} :
    readNumber greatest s = .ok n ↔ Spells s.toList n ∧ n ≤ greatest :=
  ⟨spells_of_readNumber, fun h => readNumber_spelled h.1 h.2⟩

lemma Spells.unique (hm : Spells cs m) (hn : Spells cs n) : m = n := by
  have hread : ∀ k, Spells cs k → k ≤ max m n →
      readNumber (max m n) (String.ofList cs) = .ok k := by
    intro k hk hle
    apply readNumber_spelled _ hle
    rwa [String.toList_ofList]
  have heq := (hread m hm (le_max_left m n)).symm.trans (hread n hn (le_max_right m n))
  exact Except.ok.inj heq

def decimal (n : ℕ) : String :=
  String.ofList (Nat.toDigits 10 n)

lemma decimal_spells (n : ℕ) : Spells (decimal n).toList n := by
  have hd : ∀ c ∈ Nat.toDigits 10 n, c.isDigit = true := fun _ => Text.isDigit_of_mem_digits
  have h := @Spells.intro [] [] _ [] (by simp) (.inl rfl) Nat.toDigits_ne_nil hd
  rw [Nat.ofDigitChars_ten_toDigits] at h
  simpa [decimal] using h

end FirmwareUpdate.Settings
