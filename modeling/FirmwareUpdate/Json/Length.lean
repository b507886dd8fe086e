import FirmwareUpdate.Json.Number
import FirmwareUpdate.Json.Text

/-! Readers of numbers and identifiers give back a rest no longer than what they were given. -/

namespace FirmwareUpdate.Json

theorem skipDigits_length (cs : List Char) : (skipDigits cs).length ≤ cs.length :=
  (List.dropWhile_suffix Char.isDigit).length_le

theorem wholeDigits_length (n : Nat) (cs : List Char) :
    (wholeDigits n cs).2.2.length ≤ cs.length := by
  induction cs generalizing n with
  | nil => simp [wholeDigits]
  | cons c cs ih =>
    simp only [wholeDigits]
    split
    · split
      · exact Nat.le_succ_of_le (ih _)
      · exact skipDigits_length _
    · simp

theorem decimalDigits_length (n places : Nat) (cs : List Char) :
    (decimalDigits n places cs).2.2.length ≤ cs.length := by
  induction cs generalizing n places with
  | nil => simp [decimalDigits]
  | cons c cs ih =>
    simp only [decimalDigits]
    split
    · split
      · exact Nat.le_succ_of_le (ih _ _)
      · exact skipDigits_length _
    · simp

theorem exponentDigits_length (n : Nat) (cs : List Char) :
    (exponentDigits n cs).2.length ≤ cs.length := by
  induction cs generalizing n with
  | nil => simp [exponentDigits]
  | cons c cs ih =>
    simp only [exponentDigits]
    split
    · split
      · exact Nat.le_succ_of_le (ih _)
      · simp
    · simp

theorem finishReal_length {minus : Bool} {n : Nat} {e : Int} {cs rest : List Char} {v : Numeral}
    (h : finishReal minus n e cs = .ok (v, rest)) : rest.length ≤ cs.length := by
  unfold finishReal at h
  split at h
  · simp only [Except.ok.injEq, Prod.mk.injEq] at h
    simp [← h.2]
  · simp at h

theorem readSign_length (cs : List Char) : (readSign cs).2.length ≤ cs.length := by
  unfold readSign
  split <;> simp

theorem readPower_length {minus down : Bool} {n : Nat} {e : Int} {cs rest : List Char} {v : Numeral}
    (h : readPower minus n e down cs = .ok (v, rest)) : rest.length ≤ cs.length := by
  unfold readPower at h
  split at h
  · simp at h
  · rename_i c ds
    have hl := exponentDigits_length (digitValue c) ds
    split at h
    · split at h
      · rename_i he
        have := finishReal_length h
        simp only [he, List.length_cons] at hl ⊢
        omega
      · rename_i r he
        have := skipDigits_length r
        simp only [he, List.length_cons] at hl ⊢
        split at h
        · simp at h
        · simp only [Except.ok.injEq, Prod.mk.injEq] at h
          simp only [← h.2]
          omega
    · simp at h

theorem readExponent_length {minus : Bool} {n : Nat} {e : Int} {cs rest : List Char} {v : Numeral}
    (h : readExponent minus n e cs = .ok (v, rest)) : rest.length ≤ cs.length :=
  Nat.le_trans (readPower_length h) (readSign_length cs)

theorem readMark_length {minus : Bool} {n : Nat} {e : Int} {cs rest : List Char} {v : Numeral}
    (h : readMark minus n e cs = .ok (v, rest)) : rest.length ≤ cs.length := by
  unfold readMark at h
  split at h
  · exact Nat.le_succ_of_le (readExponent_length h)
  · exact Nat.le_succ_of_le (readExponent_length h)
  · exact finishReal_length h

theorem readDecimals_length {minus : Bool} {n : Nat} {e : Int} {cs rest : List Char} {v : Numeral}
    (h : readDecimals minus n e cs = .ok (v, rest)) : rest.length ≤ cs.length := by
  unfold readDecimals at h
  split at h
  · simp at h
  · rename_i c ds
    have hl := decimalDigits_length n 0 (c :: ds)
    split at h
    · split at h
      rename_i hd
      rw [hd] at hl
      exact Nat.le_trans (readMark_length h) hl
    · simp at h

theorem finishNumber_length {minus : Bool} {n dropped : Nat} {cs rest : List Char} {v : Numeral}
    (h : finishNumber minus n dropped cs = .ok (v, rest)) : rest.length ≤ cs.length := by
  unfold finishNumber at h
  split at h
  · have := readDecimals_length h
    simp only [List.length_cons]
    omega
  · have := readExponent_length h
    simp only [List.length_cons]
    omega
  · have := readExponent_length h
    simp only [List.length_cons]
    omega
  · split at h
    · exact finishReal_length h
    · split at h
      · simp only [Except.ok.injEq, Prod.mk.injEq] at h
        simp [← h.2]
      · split at h <;>
          · simp only [Except.ok.injEq, Prod.mk.injEq] at h
            simp [← h.2]

theorem readNumber_length {minus : Bool} {cs rest : List Char} {v : Numeral}
    (h : readNumber minus cs = .ok (v, rest)) : rest.length < cs.length := by
  unfold readNumber at h
  split at h
  · simp at h
  · split at h
    · split at h
      · simp at h
      · have := finishNumber_length h
        simp only [List.length_cons] at this ⊢
        omega
    · have := finishNumber_length h
      simp only [List.length_cons, List.length_nil] at this ⊢
      omega
  · rename_i c ds _
    split at h
    · have hl := wholeDigits_length (digitValue c) ds
      split at h
      rename_i hd
      rw [hd] at hl
      exact Nat.lt_succ_of_le (Nat.le_trans (finishNumber_length h) hl)
    · simp at h

theorem skipPower_length {cs rest : List Char} (h : skipPower cs = .ok rest) :
    rest.length ≤ cs.length := by
  unfold skipPower at h
  split at h
  · simp at h
  · split at h
    · simp only [Except.ok.injEq] at h
      rw [← h]
      exact Nat.le_succ_of_le (skipDigits_length _)
    · simp at h

theorem skipExponent_length {cs rest : List Char} (h : skipExponent cs = .ok rest) :
    rest.length ≤ cs.length :=
  Nat.le_trans (skipPower_length h) (readSign_length cs)

theorem skipMark_length {cs rest : List Char} (h : skipMark cs = .ok rest) :
    rest.length ≤ cs.length := by
  unfold skipMark at h
  split at h
  · have := skipExponent_length h
    simp only [List.length_cons]
    omega
  · have := skipExponent_length h
    simp only [List.length_cons]
    omega
  · simp only [Except.ok.injEq] at h
    simp [← h]

theorem skipFraction_length {cs rest : List Char} (h : skipFraction cs = .ok rest) :
    rest.length ≤ cs.length := by
  unfold skipFraction at h
  split at h
  · split at h
    · rename_i c ds
      split at h
      · exact Nat.le_succ_of_le
          (Nat.le_trans (skipMark_length h) (skipDigits_length (c :: ds)))
      · simp at h
    · simp at h
  · exact skipMark_length h

theorem skipNumber_length {cs rest : List Char} (h : skipNumber cs = .ok rest) :
    rest.length < cs.length := by
  unfold skipNumber at h
  split at h
  · simp at h
  · split at h
    · split at h
      · simp at h
      · have := skipFraction_length h
        simp only [List.length_cons] at this ⊢
        omega
    · have := skipFraction_length h
      simp only [List.length_cons, List.length_nil] at this ⊢
      omega
  · rename_i c ds _
    split at h
    · have := skipFraction_length h
      have := skipDigits_length ds
      simp only [List.length_cons]
      omega
    · simp at h

end FirmwareUpdate.Json
