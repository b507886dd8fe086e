import FirmwareUpdate.Duration
import FirmwareUpdate.Proofs.Number.Float
import FirmwareUpdate.Proofs.Text.Numeral

/-! What the texts of durations say. The words of an estimate are read back to the number they were made
of; minutes are told from sixty seconds on, and never more than fifty-nine seconds beside them. -/

namespace FirmwareUpdate.Duration

open Number
open Text (digits_injective isDigit_of_mem_digits notMem_digits parts parts_append parts_of_notMem)

variable {n : ℕ} {word : String}

lemma toString_toList (n : ℕ) : (toString n).toList = Nat.toDigits 10 n := by
  rw [Nat.toString_eq_ofList_toDigits, String.toList_ofList]

def inflected (word : String) (n : ℕ) : List Char :=
  if n = 1 then word.toList else word.toList ++ ['s']

lemma counted_toList (n : ℕ) (word : String) :
    (counted n word).toList = Nat.toDigits 10 n ++ ' ' :: inflected word n := by
  have hspace : (toString " ").toList = [' '] := rfl
  have hword : (toString word).toList = word.toList := rfl
  have hplural : (toString "s").toList = ['s'] := rfl
  rw [counted, inflected]
  split
  · simp only [String.toList_append, toString_toList, hspace, hword, List.append_assoc,
      List.cons_append, List.nil_append]
  · simp only [String.toList_append, toString_toList, hspace, hword, hplural, List.append_assoc,
      List.cons_append, List.nil_append]

def readCount (word : String) (number name : List Char) : Option ℕ :=
  let n := Nat.ofDigitChars 10 number 0
  if number ≠ [] ∧ number.all Char.isDigit ∧ name = inflected word n then some n else none

lemma readCount_counted (word : String) (n : ℕ) :
    readCount word (Nat.toDigits 10 n) (inflected word n) = some n := by
  rw [readCount, Nat.ofDigitChars_ten_toDigits, if_pos]
  exact ⟨Nat.toDigits_ne_nil, List.all_eq_true.mpr fun c hc => isDigit_of_mem_digits hc, rfl⟩

def underMinute (n : ℕ) : Option ℕ :=
  if n < 60 then some n else none

def readWords (text : String) : Option ℕ :=
  match parts ' ' text.toList with
  | [number, name] => readCount "second" number name >>= underMinute
  | [number, name, number', name'] => do
      let minutes ← readCount "minute" number name
      let seconds ← readCount "second" number' name' >>= underMinute
      return minutes * 60 + seconds
  | _ => none

lemma inWords_short (h : n < 60) : inWords n = counted n "second" := by
  have hminutes : ¬ 0 < n / 60 := by omega
  rw [inWords, if_neg hminutes, Nat.mod_eq_of_lt h]

lemma inWords_long (h : 60 ≤ n) :
    inWords n = counted (n / 60) "minute" ++ " " ++ counted (n % 60) "second" := by
  have hminutes : 0 < n / 60 := by omega
  rw [inWords, if_pos hminutes]

lemma parts_counted (hword : ' ' ∉ word.toList) (n : ℕ) :
    parts ' ' (counted n word).toList = [Nat.toDigits 10 n, inflected word n] := by
  have hname : ' ' ∉ inflected word n := by
    rw [inflected]
    split
    · exact hword
    · simpa using hword
  rw [counted_toList, parts_append, parts_of_notMem (notMem_digits n rfl), parts_of_notMem hname]
  rfl

lemma readWords_inWords (n : ℕ) : readWords (inWords n) = some n := by
  have hminute : ' ' ∉ "minute".toList := by decide
  have hsecond : ' ' ∉ "second".toList := by decide
  by_cases h : n < 60
  · have hparts : parts ' ' (inWords n).toList = [Nat.toDigits 10 n, inflected "second" n] := by
      rw [inWords_short h, parts_counted hsecond]
    simp only [readWords, hparts, readCount_counted]
    exact if_pos h
  · have hparts : parts ' ' (inWords n).toList =
        [Nat.toDigits 10 (n / 60), inflected "minute" (n / 60), Nat.toDigits 10 (n % 60),
          inflected "second" (n % 60)] := by
      have htext : (inWords n).toList = (counted (n / 60) "minute").toList ++
          ' ' :: (counted (n % 60) "second").toList := by
        rw [inWords_long (by omega)]
        simp
      rw [htext, parts_append, parts_counted hminute, parts_counted hsecond]
      rfl
    have hunder : underMinute (n % 60) = some (n % 60) := if_pos (Nat.mod_lt n (by decide))
    have hsum : n / 60 * 60 + n % 60 = n := by omega
    simp only [readWords, hparts, readCount_counted, Option.bind_eq_bind, Option.bind_some, hunder]
    exact congrArg some hsum

lemma minute_iff : "minute".toList <:+: (inWords n).toList ↔ 60 ≤ n := by
  constructor
  · intro h
    by_contra hn
    have hm : 'm' ∈ (inWords n).toList := h.subset (by decide)
    rw [inWords_short (by omega), counted_toList, List.mem_append, List.mem_cons] at hm
    rcases hm with hm | hm | hm
    · exact notMem_digits n rfl hm
    · cases hm
    · revert hm
      rw [inflected]
      split <;> decide
  · intro h
    have hname : "minute".toList <:+: inflected "minute" (n / 60) := by
      rw [inflected]
      split
      · exact List.infix_rfl
      · exact (List.prefix_append _ _).isInfix
    have hcounted : "minute".toList <:+: (counted (n / 60) "minute").toList := by
      rw [counted_toList]
      exact hname.trans (List.infix_cons List.infix_rfl |>.trans (List.suffix_append _ _).isInfix)
    rw [inWords_long h, String.toList_append, String.toList_append, List.append_assoc]
    exact hcounted.trans (List.prefix_append _ _).isInfix

variable {f : Fraction} {x : Float}

def limit : ℕ := 2 ^ 64 - 1

def wholeSeconds (x : Float) : ℕ := min ⌊amount x + 1 / 2⌋₊ limit

lemma minutes_toList (m s : ℕ) : (s!"{m}m {s}s").toList =
    Nat.toDigits 10 m ++ 'm' :: ' ' :: (Nat.toDigits 10 s ++ ['s']) := by
  have hmarks : (toString "m ").toList = ['m', ' '] ∧ (toString "s").toList = ['s'] := ⟨rfl, rfl⟩
  simp only [String.toList_append, toString_toList, hmarks, List.append_assoc, List.cons_append,
    List.nil_append]

lemma seconds_toList (s : ℕ) : (s!"{s}s").toList = Nat.toDigits 10 s ++ ['s'] := by
  have hmark : (toString "s").toList = ['s'] := rfl
  rw [String.toList_append, toString_toList, hmark]

lemma minutes_injective {m s k r : ℕ} (h : s!"{m}m {s}s" = s!"{k}m {r}s") : m = k ∧ s = r := by
  have hlist := congrArg String.toList h
  rw [minutes_toList, minutes_toList] at hlist
  have hdigits : ∀ n : ℕ, 'm' ∉ Nat.toDigits 10 n := fun n => notMem_digits n rfl
  have hrest : 'm' ∉ ' ' :: (Nat.toDigits 10 s ++ ['s']) := by simp [hdigits]
  obtain ⟨hminutes, -, htail⟩ := (List.append_cons_inj_of_notMem (hdigits m) hrest).mp hlist
  have hseconds := List.append_cancel_right (List.cons.inj htail).2
  exact ⟨digits_injective hminutes, digits_injective hseconds⟩

lemma text_fraction (x : Float) : ∃ f : Fraction, text x = compact f ∧ 0 < f.den ∧
    f.value = amount x := by
  refine ⟨_, rfl, Binary.fraction_den_pos _, ?_⟩
  rw [Binary.fraction_value, magnitude?_value]

lemma text_long (h : 60 ≤ amount x) :
    text x = s!"{wholeSeconds x / 60}m {wholeSeconds x % 60}s" := by
  obtain ⟨f, htext, hden, hvalue⟩ := text_fraction x
  have hlong : f.atLeast 60 = true := by
    rw [Fraction.atLeast_iff hden, hvalue]
    exact_mod_cast h
  rw [htext, compact, if_pos hlong, Fraction.rounded_eq hden, hvalue]
  rfl

lemma text_short (h : amount x < 60) : text x = s!"{⌊amount x + 1 / 2⌋₊}s" := by
  obtain ⟨f, htext, hden, hvalue⟩ := text_fraction x
  have hshort : ¬ f.atLeast 60 = true := by
    rw [Fraction.atLeast_iff hden, hvalue, not_le]
    exact_mod_cast h
  rw [htext, compact, if_neg hshort, Fraction.rounded_eq hden, hvalue]

lemma minute_mark_iff (x : Float) : 'm' ∈ (text x).toList ↔ 60 ≤ amount x := by
  constructor
  · intro hm
    by_contra h
    rw [text_short (not_le.mp h), seconds_toList, List.mem_append] at hm
    cases hm with
    | inl hdigits => exact notMem_digits _ rfl hdigits
    | inr hmark => exact absurd hmark (by decide)
  · intro h
    rw [text_long h, minutes_toList]
    exact List.mem_append_right _ List.mem_cons_self

lemma minutes_read {m s : ℕ} (h : text x = s!"{m}m {s}s") : s < 60 ∧ m * 60 + s = wholeSeconds x := by
  have hm : 'm' ∈ (text x).toList := by
    rw [h, minutes_toList]
    exact List.mem_append_right _ List.mem_cons_self
  rw [text_long ((minute_mark_iff x).mp hm)] at h
  obtain ⟨rfl, rfl⟩ := minutes_injective h
  omega

/-- Equal texts of estimates stand for equal numbers of seconds, and the words read back to the number.
A compact text has minutes from sixty seconds on, and its minutes and seconds make up the nearest whole
number of seconds. -/
theorem texts_faithful :
    (∀ a b, estimateText a = estimateText b ↔ estimate a = estimate b) ∧
    (∀ a, ("minute".toList <:+: (estimateText a).toList ↔ 60 ≤ estimate a) ∧
      readWords (estimateText a) = some (estimate a)) ∧
    ∀ x : Float,
      ('m' ∈ (text x).toList ↔ 60 ≤ amount x) ∧
      (60 ≤ amount x → ∃ m s, text x = s!"{m}m {s}s" ∧ s < 60 ∧ m * 60 + s = wholeSeconds x) ∧
      (∀ m s, text x = s!"{m}m {s}s" → s < 60 ∧ m * 60 + s = wholeSeconds x) ∧
      (amount x < 60 → text x = s!"{⌊amount x + 1 / 2⌋₊}s") := by
  have hread : ∀ a, readWords (estimateText a) = some (estimate a) := fun a => readWords_inWords _
  refine ⟨fun a b => ⟨fun h => ?_, congrArg inWords⟩, fun a => ⟨minute_iff, hread a⟩, fun x =>
    ⟨minute_mark_iff x, fun h => ?_, fun m s => minutes_read, text_short⟩⟩
  case refine_1 =>
    have hsome : some (estimate a) = some (estimate b) := by rw [← hread a, ← hread b, h]
    exact Option.some.inj hsome
  case refine_2 =>
    have htext := text_long h
    exact ⟨_, _, htext, minutes_read htext⟩

def shortOfTwoMinutes : Float := Float.ofBits 0x405DE66666666666

def notANumber : Float := Float.ofBits 0x7FF8000000000000

lemma shortOfTwoMinutes_amount :
    amount shortOfTwoMinutes = 0x1DE66666666666 * 2 ^ (-46 : ℤ) := by
  have hbits : magnitude? shortOfTwoMinutes = some ⟨0x1DE66666666666, -46⟩ := rfl
  rw [← magnitude?_value, hbits, Option.getD_some, Binary.value, Nat.cast_ofNat]

lemma notANumber_amount : amount notANumber = 0 := by
  have hbits : magnitude? notANumber = none := rfl
  rw [← magnitude?_value, hbits, Option.getD_none, zero_value]

theorem texts_faithful_boundary :
    (60 ≤ amount shortOfTwoMinutes ∧ wholeSeconds shortOfTwoMinutes = 120 ∧
      ∃ m s, text shortOfTwoMinutes = s!"{m}m {s}s" ∧ s < 60 ∧ m * 60 + s = 120) ∧
    (amount notANumber < 60 ∧ text notANumber = "0s") := by
  have hlong : 60 ≤ amount shortOfTwoMinutes := by
    rw [shortOfTwoMinutes_amount]
    norm_num
  have hwhole : wholeSeconds shortOfTwoMinutes = 120 := by
    have hfloor : ⌊amount shortOfTwoMinutes + 1 / 2⌋₊ = 120 := by
      rw [shortOfTwoMinutes_amount, Nat.floor_eq_iff (by norm_num)]
      constructor <;> norm_num
    rw [wholeSeconds, hfloor]
    rfl
  have hshort : amount notANumber < 60 := by
    rw [notANumber_amount]
    norm_num
  have hnone : ⌊amount notANumber + 1 / 2⌋₊ = 0 := by
    rw [notANumber_amount]
    norm_num
  refine ⟨⟨hlong, hwhole, ?_⟩, hshort, ?_⟩
  · obtain ⟨m, s, htext, -⟩ := (texts_faithful.2.2 shortOfTwoMinutes).2.1 hlong
    have hread := (texts_faithful.2.2 shortOfTwoMinutes).2.2.1 m s htext
    rw [hwhole] at hread
    exact ⟨m, s, htext, hread⟩
  · rw [(texts_faithful.2.2 notANumber).2.2.2 hshort, hnone]
    rfl

end FirmwareUpdate.Duration
