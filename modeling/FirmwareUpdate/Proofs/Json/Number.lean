import FirmwareUpdate.Json.Length
import Mathlib.Tactic

/-! Numbers of a longer text. What a reader of numbers gives back does not change when more text
follows, unless the number came to the end of the text and goes on in what follows. -/

namespace FirmwareUpdate.Json

variable {cs r q : List Char} {minus : Bool} {n : Nat} {e : Int} {v : Numeral}

def prolongs (c : Char) : Bool :=
  c.isDigit || c == '.' || c == 'e' || c == 'E'

def Parted (r q : List Char) : Prop :=
  r = [] → ∀ c ∈ q.head?, prolongs c = false

lemma parted_of_ne_nil (h : r ≠ []) : Parted r q :=
  fun hr => absurd hr h

lemma Parted.back (h : Parted r q) (hl : r.length ≤ cs.length) : Parted cs q := by
  rintro rfl
  exact h (List.length_eq_zero_iff.mp (Nat.le_zero.mp hl))

lemma Parted.cases (h : Parted [] q) :
    q = [] ∨ ∃ c q', q = c :: q' ∧ c.isDigit = false ∧ c ≠ '.' ∧ c ≠ 'e' ∧ c ≠ 'E' := by
  cases q with
  | nil => exact .inl rfl
  | cons c q =>
    have hp := h rfl c rfl
    simp only [prolongs, Bool.or_eq_false_iff, beq_eq_false_iff_ne] at hp
    obtain ⟨⟨⟨hd, hdot⟩, he⟩, hE⟩ := hp
    exact .inr ⟨c, q, rfl, hd, hdot, he, hE⟩

def Undigited (q : List Char) : Prop :=
  ∀ c ∈ q.head?, c.isDigit = false

lemma Parted.undigited (h : Parted [] q) : Undigited q := by
  rcases h.cases with rfl | ⟨c, q, rfl, hd, _⟩
  · intro c hc
    cases hc
  · rintro c ⟨⟩
    exact hd

lemma skipDigits_append (h : Parted (skipDigits cs) q) :
    skipDigits (cs ++ q) = skipDigits cs ++ q := by
  rw [skipDigits, List.dropWhile_append, ← skipDigits]
  cases hs : skipDigits cs with
  | nil =>
    rw [hs] at h
    rcases h.cases with rfl | ⟨c, q, rfl, hd, _⟩
    · rfl
    · simp [hd]
  | cons c r => rfl

lemma readSign_append (h : cs ≠ []) (q : List Char) :
    readSign (cs ++ q) = ((readSign cs).1, (readSign cs).2 ++ q) := by
  cases cs with
  | nil => exact absurd rfl h
  | cons c cs =>
    by_cases hp : c = '+'
    · subst hp
      rfl
    · by_cases hm : c = '-'
      · subst hm
        rfl
      · simp [readSign, hp, hm]

lemma skipPower_append (h : skipPower cs = .ok r) (hq : Parted r q) :
    skipPower (cs ++ q) = .ok (r ++ q) := by
  cases cs with
  | nil => cases h
  | cons c cs =>
    simp only [skipPower, List.cons_append] at h ⊢
    split_ifs at h with hd
    obtain rfl := Except.ok.inj h
    rw [if_pos hd, skipDigits_append hq]

lemma skipExponent_append (h : skipExponent cs = .ok r) (hq : Parted r q) :
    skipExponent (cs ++ q) = .ok (r ++ q) := by
  have hne : cs ≠ [] := by
    rintro rfl
    cases h
  rw [skipExponent, readSign_append hne]
  exact skipPower_append h hq

lemma skipMark_append (h : skipMark cs = .ok r) (hq : Parted r q) :
    skipMark (cs ++ q) = .ok (r ++ q) := by
  unfold skipMark at h
  split at h
  · exact skipExponent_append h hq
  · exact skipExponent_append h hq
  · obtain rfl := Except.ok.inj h
    cases cs with
    | nil =>
      rcases hq.cases with rfl | ⟨c, q, rfl, _, _, hce, hcE⟩
      · rfl
      · simp [skipMark, hce, hcE]
    | cons c cs => simp_all [skipMark]

lemma skipFraction_append (h : skipFraction cs = .ok r) (hq : Parted r q) :
    skipFraction (cs ++ q) = .ok (r ++ q) := by
  unfold skipFraction at h
  split at h
  · split at h
    · rename_i c cs
      split_ifs at h with hd
      have hdigits := skipDigits_append (hq.back (skipMark_length h))
      rw [List.cons_append] at hdigits
      simp only [skipFraction, List.cons_append, if_pos hd, hdigits]
      exact skipMark_append h hq
    · cases h
  · have hmark := skipMark_append h hq
    cases cs with
    | nil =>
      obtain rfl : r = [] := by simpa [skipMark] using h.symm
      rcases hq.cases with rfl | ⟨c, q, rfl, _, hdot, _⟩
      · rfl
      · simpa [skipFraction, hdot] using hmark
    | cons c cs => simp_all [skipFraction]

lemma skipNumber_append (h : skipNumber cs = .ok r) (hq : Parted r q) :
    skipNumber (cs ++ q) = .ok (r ++ q) := by
  unfold skipNumber at h
  split at h
  · cases h
  · split at h
    · rename_i c cs
      split_ifs at h with hd
      have hf := skipFraction_append h hq
      simpa [skipNumber, hd] using hf
    · have hf := skipFraction_append h hq
      rcases (hq.back (skipFraction_length h)).cases with rfl | ⟨c, q, rfl, hd, _⟩
      · exact hf
      · simpa [skipNumber, hd] using hf
  · rename_i c cs hzero
    split_ifs at h with hd
    have hdigits := skipDigits_append (hq.back (skipFraction_length h))
    have hf := skipFraction_append h hq
    rw [← hdigits] at hf
    simpa [skipNumber, hzero, hd] using hf

lemma takeDigits_append (h : Parted (skipDigits cs) q) :
    (cs ++ q).takeWhile Char.isDigit = cs.takeWhile Char.isDigit := by
  have hdigits := skipDigits_append h
  have hsplit : (cs ++ q).takeWhile Char.isDigit ++ skipDigits (cs ++ q) = cs ++ q :=
    List.takeWhile_append_dropWhile
  have hcs : cs.takeWhile Char.isDigit ++ skipDigits cs = cs := List.takeWhile_append_dropWhile
  rw [hdigits, ← List.append_assoc, List.append_left_inj] at hsplit
  exact List.append_cancel_right (hsplit.trans hcs.symm)

lemma wholeDigits_append (n : Nat) (h : Parted (wholeDigits n cs).2.2 q) :
    wholeDigits n (cs ++ q) =
      ((wholeDigits n cs).1, (wholeDigits n cs).2.1, (wholeDigits n cs).2.2 ++ q) := by
  induction cs generalizing n with
  | nil =>
    rcases Parted.cases h with rfl | ⟨c, q, rfl, hd, _⟩
    · rfl
    · simp [wholeDigits, hd]
  | cons c cs ih =>
    simp only [wholeDigits, List.cons_append] at h ⊢
    split_ifs at h ⊢ with hd hn
    · exact ih _ h
    · have htake := takeDigits_append h
      have hskip := skipDigits_append h
      rw [List.cons_append] at htake hskip
      rw [htake, hskip]
    · rfl

lemma decimalDigits_append (n places : Nat) (h : Parted (decimalDigits n places cs).2.2 q) :
    decimalDigits n places (cs ++ q) =
      ((decimalDigits n places cs).1, (decimalDigits n places cs).2.1,
        (decimalDigits n places cs).2.2 ++ q) := by
  induction cs generalizing n places with
  | nil =>
    rcases Parted.cases h with rfl | ⟨c, q, rfl, hd, _⟩
    · rfl
    · simp [decimalDigits, hd]
  | cons c cs ih =>
    simp only [decimalDigits, List.cons_append] at h ⊢
    split_ifs at h ⊢ with hd hn
    · exact ih _ _ h
    · have hskip := skipDigits_append h
      rw [List.cons_append] at hskip
      rw [hskip]
    · rfl

lemma exponentDigits_append (n : Nat) (h : Parted (exponentDigits n cs).2 q) :
    exponentDigits n (cs ++ q) = ((exponentDigits n cs).1, (exponentDigits n cs).2 ++ q) := by
  induction cs generalizing n with
  | nil =>
    rcases Parted.cases h with rfl | ⟨c, q, rfl, hd, _⟩
    · rfl
    · simp [exponentDigits, hd]
  | cons c cs ih =>
    simp only [exponentDigits, List.cons_append] at h ⊢
    split_ifs at h ⊢ with hd hn
    · exact ih _ h
    · rfl
    · rfl

lemma finishReal_append (h : finishReal minus n e cs = .ok (v, r)) (q : List Char) :
    finishReal minus n e (cs ++ q) = .ok (v, r ++ q) := by
  unfold finishReal at h ⊢
  split at h
  · cases h
    rfl
  · cases h

lemma readPower_append {down : Bool} (h : readPower minus n e down cs = .ok (v, r))
    (hq : Parted r q) : readPower minus n e down (cs ++ q) = .ok (v, r ++ q) := by
  cases cs with
  | nil => cases h
  | cons c cs =>
    simp only [readPower, List.cons_append] at h ⊢
    by_cases hd : c.isDigit
    · rw [if_pos hd] at h ⊢
      split at h
      · rename_i k rest he
        have hback : Parted (exponentDigits (digitValue c) cs).2 q := by
          rw [he]
          exact hq.back (finishReal_length h)
        rw [exponentDigits_append _ hback, he]
        exact finishReal_append h q
      · rename_i rest he
        split_ifs at h with hn
        cases h
        have hback : Parted (exponentDigits (digitValue c) cs).2 q := by
          rw [he]
          exact hq.back (skipDigits_length rest)
        rw [exponentDigits_append _ hback, he]
        simp only [if_neg hn, skipDigits_append hq]
    · rw [if_neg hd] at h
      cases h

lemma readExponent_append (h : readExponent minus n e cs = .ok (v, r)) (hq : Parted r q) :
    readExponent minus n e (cs ++ q) = .ok (v, r ++ q) := by
  have hne : cs ≠ [] := by
    rintro rfl
    cases h
  rw [readExponent, readSign_append hne]
  exact readPower_append h hq

lemma readMark_append (h : readMark minus n e cs = .ok (v, r)) (hq : Parted r q) :
    readMark minus n e (cs ++ q) = .ok (v, r ++ q) := by
  unfold readMark at h
  split at h
  · exact readExponent_append h hq
  · exact readExponent_append h hq
  · have hreal := finishReal_append h q
    cases cs with
    | nil =>
      rcases (hq.back (finishReal_length h)).cases with rfl | ⟨c, q, rfl, _, _, hce, hcE⟩
      · exact hreal
      · simpa [readMark, hce, hcE] using hreal
    | cons c cs => simp_all [readMark]

lemma readDecimals_append (h : readDecimals minus n e cs = .ok (v, r)) (hq : Parted r q) :
    readDecimals minus n e (cs ++ q) = .ok (v, r ++ q) := by
  cases cs with
  | nil => cases h
  | cons c cs =>
    simp only [readDecimals, List.cons_append] at h ⊢
    split_ifs at h ⊢ with hd
    have hdigits := decimalDigits_append n 0 (hq.back (readMark_length h))
    rw [List.cons_append] at hdigits
    rw [hdigits]
    exact readMark_append h hq

lemma finishNumber_append {dropped : Nat} (h : finishNumber minus n dropped cs = .ok (v, r))
    (hq : Parted r q) : finishNumber minus n dropped (cs ++ q) = .ok (v, r ++ q) := by
  have hback : Parted cs q := hq.back (finishNumber_length h)
  unfold finishNumber at h
  split at h
  · exact readDecimals_append h hq
  · exact readExponent_append h hq
  · exact readExponent_append h hq
  · rename_i hdot he hE
    -- the number ends here, and so it does when more text follows
    have hend : finishNumber minus n dropped (cs ++ q) =
        if 0 < dropped then finishReal minus n dropped (cs ++ q)
        else if !minus then .ok (.natural n, cs ++ q)
        else if 0 < n ∧ n ≤ 0x8000000000000000 then .ok (.negative n, cs ++ q)
        else .ok (.real true (.ofNat n), cs ++ q) := by
      cases cs with
      | nil =>
        rcases hback.cases with rfl | ⟨c, q, rfl, _, hcdot, hce, hcE⟩
        · rfl
        · simp [finishNumber, hcdot, hce, hcE]
      | cons c cs =>
        rw [List.cons_append, finishNumber]
        all_goals
          rintro x hx
          obtain ⟨rfl, -⟩ := List.cons.inj hx
          first | exact hdot _ rfl | exact he _ rfl | exact hE _ rfl
    rw [hend]
    split_ifs at h ⊢
    · exact finishReal_append h q
    all_goals
      cases h
      rfl

lemma readNumber_append (h : readNumber minus cs = .ok (v, r)) (hq : Parted r q) :
    readNumber minus (cs ++ q) = .ok (v, r ++ q) := by
  unfold readNumber at h
  split at h
  · cases h
  · split at h
    · rename_i c cs
      split_ifs at h with hd
      have hf := finishNumber_append h hq
      simpa [readNumber, hd] using hf
    · have hf := finishNumber_append h hq
      rcases (hq.back (finishNumber_length h)).cases with rfl | ⟨c, q, rfl, hd, _⟩
      · exact hf
      · simpa [readNumber, hd] using hf
  · rename_i c cs hzero
    split_ifs at h with hd
    have hdigits := wholeDigits_append (digitValue c) (hq.back (finishNumber_length h))
    have hf := finishNumber_append h hq
    simpa [readNumber, hzero, hd, hdigits] using hf

end FirmwareUpdate.Json
