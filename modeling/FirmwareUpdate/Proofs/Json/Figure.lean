import FirmwareUpdate.Proofs.Json.Written

/-! The numbers that may stand in a document: a whole part without a zero in front, decimals or
none, a power of ten or none. All are passed over; a whole number is read as one only if it has
neither decimals nor a power and is not too large. -/

namespace FirmwareUpdate.Json

structure Digits where
  first : Char
  rest : List Char
  isDigit : ∀ c ∈ first :: rest, c.isDigit = true

structure Power where
  mark : Char
  sign : List Char
  digits : Digits
  hmark : mark = 'e' ∨ mark = 'E'
  hsign : sign ∈ [[], ['+'], ['-']]

structure Figure where
  minus : Bool
  whole : Digits
  decimals : Option Digits
  power : Option Power
  hwhole : whole.first = '0' → whole.rest = []

namespace Digits

def chars (d : Digits) : List Char :=
  d.first :: d.rest

lemma first_isDigit (d : Digits) : d.first.isDigit = true :=
  d.isDigit _ List.mem_cons_self

lemma rest_isDigit (d : Digits) : ∀ c ∈ d.rest, c.isDigit = true :=
  fun c hc => d.isDigit c (List.mem_cons_of_mem _ hc)

end Digits

namespace Figure

def pointed (f : Figure) : List Char :=
  f.decimals.elim [] fun d => '.' :: d.chars

def raised (f : Figure) : List Char :=
  f.power.elim [] fun p => p.mark :: (p.sign ++ p.digits.chars)

def unsigned (f : Figure) : List Char :=
  f.whole.chars ++ (f.pointed ++ f.raised)

def spelling (f : Figure) : List Char :=
  if f.minus then '-' :: f.unsigned else f.unsigned

def natural? (f : Figure) : Option ℕ :=
  if f.minus = false ∧ f.decimals = none ∧ f.power = none then
    some (Nat.ofDigitChars 10 f.whole.chars 0)
  else none

end Figure

variable {ds q r : List Char} {n : ℕ}

lemma skipDigits_all (hd : ∀ c ∈ ds, c.isDigit = true) (hq : Undigited q) :
    skipDigits (ds ++ q) = q := by
  rw [skipDigits, List.dropWhile_append_of_pos hd]
  cases q with
  | nil => rfl
  | cons c q => rw [List.dropWhile_cons_of_neg (by simp [hq c rfl])]

namespace Figure

variable (f : Figure)

lemma raised_head (hq : Parted [] q) :
    ∀ c ∈ (f.raised ++ q).head?, c.isDigit = false ∧ c ≠ '.' := by
  unfold raised
  cases f.power with
  | none =>
    rcases hq.cases with rfl | ⟨c, q, rfl, hd, hdot, _⟩
    · intro c hc
      cases hc
    · rintro c ⟨⟩
      exact ⟨hd, hdot⟩
  | some p =>
    rintro c ⟨⟩
    rcases p.hmark with h | h
    · rw [h]
      decide
    · rw [h]
      decide

lemma raised_undigited (hq : Parted [] q) : Undigited (f.raised ++ q) :=
  fun c hc => (f.raised_head hq c hc).1

lemma pointed_undigited (hq : Parted [] q) : Undigited (f.pointed ++ (f.raised ++ q)) := by
  unfold pointed
  cases f.decimals with
  | none => exact f.raised_undigited hq
  | some d =>
    rintro c ⟨⟩
    rfl

lemma unsigned_head : ∃ c s, f.unsigned = c :: s ∧ c.isDigit = true :=
  ⟨_, _, rfl, f.whole.first_isDigit⟩

lemma skipPower_chars (d : Digits) (hq : Undigited q) : skipPower (d.chars ++ q) = .ok q := by
  rw [Digits.chars, List.cons_append, skipPower, if_pos d.first_isDigit,
    skipDigits_all d.rest_isDigit hq]

lemma readSign_chars (p : Power) (q : List Char) :
    (readSign (p.sign ++ p.digits.chars ++ q)).2 = p.digits.chars ++ q := by
  have hsign := p.hsign
  simp only [List.mem_cons, List.not_mem_nil, or_false] at hsign
  rcases hsign with h | h | h
  · rw [h, List.nil_append, Digits.chars, List.cons_append]
    have hd := p.digits.first_isDigit
    unfold readSign
    split
    · rename_i heq
      rw [(List.cons.inj heq).1] at hd
      cases hd
    · rename_i heq
      rw [(List.cons.inj heq).1] at hd
      cases hd
    · rfl
  · rw [h]
    rfl
  · rw [h]
    rfl

lemma skipMark_raised (hq : Parted [] q) : skipMark (f.raised ++ q) = .ok q := by
  unfold raised
  cases f.power with
  | none =>
    rcases hq.cases with rfl | ⟨c, q, rfl, _, _, he, hE⟩
    · rfl
    · simp [skipMark, he, hE]
  | some p =>
    have hpower : skipExponent (p.sign ++ p.digits.chars ++ q) = .ok q := by
      rw [skipExponent, readSign_chars]
      exact skipPower_chars p.digits hq.undigited
    rcases p.hmark with h | h
    · rw [Option.elim_some, h]
      exact hpower
    · rw [Option.elim_some, h]
      exact hpower

lemma skipFraction_pointed (hq : Parted [] q) :
    skipFraction (f.pointed ++ (f.raised ++ q)) = .ok q := by
  have hmark := f.skipMark_raised hq
  have hpoint := fun c hc => (f.raised_head hq c hc).2
  have hdigits := f.raised_undigited hq
  unfold pointed
  generalize f.raised ++ q = cs at hmark hpoint hdigits ⊢
  cases f.decimals with
  | none =>
    cases cs with
    | nil => exact hmark
    | cons c cs =>
      have hc : c ≠ '.' := hpoint c rfl
      simpa [skipFraction, hc] using hmark
  | some d =>
    have hskip := skipDigits_all d.isDigit hdigits
    rw [Option.elim_some, Digits.chars, List.cons_append, List.cons_append, skipFraction]
    rw [List.cons_append] at hskip
    rw [if_pos d.first_isDigit, hskip, hmark]

lemma skipNumber_whole (hq : Undigited q) :
    skipNumber (f.whole.chars ++ q) = skipFraction q := by
  have hskip := skipDigits_all f.whole.rest_isDigit hq
  rw [Digits.chars, List.cons_append]
  by_cases hzero : f.whole.first = '0'
  · rw [hzero, f.hwhole hzero, List.nil_append]
    cases q with
    | nil => rfl
    | cons c q => simp [skipNumber, hq c rfl]
  · rw [skipNumber, if_pos f.whole.first_isDigit, hskip]
    exact hzero

theorem skipNumber_unsigned (hq : Parted [] q) : skipNumber (f.unsigned ++ q) = .ok q := by
  rw [unsigned, List.append_assoc, List.append_assoc, f.skipNumber_whole (f.pointed_undigited hq),
    f.skipFraction_pointed hq]

end Figure

lemma finishReal_not_natural {minus : Bool} {m : ℕ} {e : ℤ} {cs : List Char} :
    finishReal minus m e cs ≠ .ok (.natural n, r) := by
  unfold finishReal
  split
  · simp
  · simp

lemma readPower_not_natural {minus down : Bool} {m : ℕ} {e : ℤ} {cs : List Char} :
    readPower minus m e down cs ≠ .ok (.natural n, r) := by
  cases cs with
  | nil => simp [readPower]
  | cons c cs =>
    rw [readPower]
    split
    · split
      · exact finishReal_not_natural
      · split
        · simp
        · simp
    · simp

lemma readMark_not_natural {minus : Bool} {m : ℕ} {e : ℤ} {cs : List Char} :
    readMark minus m e cs ≠ .ok (.natural n, r) := by
  unfold readMark
  split
  · exact readPower_not_natural
  · exact readPower_not_natural
  · exact finishReal_not_natural

lemma readDecimals_not_natural {minus : Bool} {m : ℕ} {e : ℤ} {cs : List Char} :
    readDecimals minus m e cs ≠ .ok (.natural n, r) := by
  unfold readDecimals
  split
  · simp
  · split
    · exact readMark_not_natural
    · simp

lemma finishNumber_natural {m dropped : ℕ} :
    finishNumber false m dropped q = .ok (.natural n, r) ↔
      dropped = 0 ∧ m = n ∧ q = r ∧ ∀ c ∈ q.head?, c ≠ '.' ∧ c ≠ 'e' ∧ c ≠ 'E' := by
  unfold finishNumber
  split
  · refine iff_of_false readDecimals_not_natural ?_
    simp
  · refine iff_of_false readPower_not_natural ?_
    simp
  · refine iff_of_false readPower_not_natural ?_
    simp
  · rename_i hdot he hE
    have hhead : ∀ c ∈ q.head?, c ≠ '.' ∧ c ≠ 'e' ∧ c ≠ 'E' := by
      intro c hc
      obtain ⟨q, rfl⟩ : ∃ q', q = c :: q' := ⟨q.tail, List.eq_cons_of_mem_head? hc⟩
      refine ⟨?_, ?_, ?_⟩
      · rintro rfl
        exact hdot q rfl
      · rintro rfl
        exact he q rfl
      · rintro rfl
        exact hE q rfl
    by_cases hdropped : 0 < dropped
    · rw [if_pos hdropped]
      refine iff_of_false finishReal_not_natural ?_
      rintro ⟨rfl, -⟩
      exact absurd hdropped (lt_irrefl 0)
    · have hzero : dropped = 0 := Nat.eq_zero_of_not_pos hdropped
      rw [if_neg hdropped, if_pos Bool.not_false]
      simp only [Except.ok.injEq, Prod.mk.injEq, Numeral.natural.injEq, hzero, true_and,
        and_iff_left hhead]

lemma digitValue_le {c : Char} (h : c.isDigit = true) : digitValue c ≤ greatestWord := by
  have hnine : c.toNat ≤ 57 := by
    simp only [Char.isDigit, Bool.and_eq_true, decide_eq_true_eq] at h
    exact h.2
  exact (Nat.sub_le _ _).trans (hnine.trans (by decide))

lemma wholeDigits_dropped (hd : ∀ c ∈ ds, c.isDigit = true) (hn : n ≤ greatestWord)
    (h : greatestWord < Nat.ofDigitChars 10 ds n) : (wholeDigits n (ds ++ q)).2.1 ≠ 0 := by
  induction ds generalizing n with
  | nil => exact absurd hn (Nat.not_le.mpr h)
  | cons c ds ih =>
    have hc : n * 10 + digitValue c = 10 * n + (c.toNat - '0'.toNat) := by
      rw [Nat.mul_comm]
      rfl
    have hfirst := hd c List.mem_cons_self
    rw [Nat.ofDigitChars_cons, ← hc] at h
    rw [List.cons_append, wholeDigits, if_pos hfirst]
    split_ifs with hle
    · exact ih (fun d hm => hd d (List.mem_cons_of_mem c hm)) hle h
    · simp [hfirst]

lemma readNumber_zero (hq : Undigited q) :
    readNumber false ('0' :: q) = finishNumber false 0 0 q := by
  cases q with
  | nil => rfl
  | cons c q => simp [readNumber, hq c rfl]

lemma readNumber_first {c : Char} (hd : c.isDigit = true) (hzero : c ≠ '0') (cs : List Char) :
    readNumber false (c :: cs) =
      finishNumber false (wholeDigits (digitValue c) cs).1 (wholeDigits (digitValue c) cs).2.1
        (wholeDigits (digitValue c) cs).2.2 := by
  rw [readNumber, if_pos hd]
  exact hzero

namespace Figure

variable (f : Figure)

lemma readNumber_whole (hq : Undigited q) :
    readNumber false (f.whole.chars ++ q) = .ok (.natural n, r) ↔
      Nat.ofDigitChars 10 f.whole.chars 0 = n ∧ n ≤ greatestWord ∧ q = r ∧
        ∀ c ∈ q.head?, c ≠ '.' ∧ c ≠ 'e' ∧ c ≠ 'E' := by
  have hd := f.whole.first_isDigit
  have hrest := f.whole.rest_isDigit
  have hvalue : Nat.ofDigitChars 10 f.whole.chars 0 =
      Nat.ofDigitChars 10 f.whole.rest (digitValue f.whole.first) := by
    rw [Digits.chars, Nat.ofDigitChars_cons, Nat.mul_zero, Nat.zero_add]
    rfl
  rw [hvalue, Digits.chars, List.cons_append]
  by_cases hzero : f.whole.first = '0'
  · rw [hzero, f.hwhole hzero, List.nil_append, readNumber_zero hq, finishNumber_natural]
    constructor
    · rintro ⟨-, rfl, rfl, hhead⟩
      exact ⟨rfl, Nat.zero_le _, rfl, hhead⟩
    · rintro ⟨rfl, -, rfl, hhead⟩
      exact ⟨rfl, rfl, rfl, hhead⟩
  · rw [readNumber_first hd hzero, finishNumber_natural]
    by_cases hfits : Nat.ofDigitChars 10 f.whole.rest (digitValue f.whole.first) ≤ greatestWord
    · rw [wholeDigits_ofDigitChars hrest hq hfits]
      constructor
      · rintro ⟨-, rfl, rfl, hhead⟩
        exact ⟨rfl, hfits, rfl, hhead⟩
      · rintro ⟨rfl, -, rfl, hhead⟩
        exact ⟨rfl, rfl, rfl, hhead⟩
    · refine iff_of_false ?_ ?_
      · rintro ⟨hdropped, -⟩
        exact wholeDigits_dropped hrest (digitValue_le hd) (Nat.not_le.mp hfits) hdropped
      · rintro ⟨rfl, hn, -⟩
        exact hfits hn

theorem readNumber_unsigned (hminus : f.minus = false) (hq : Parted [] q) :
    readNumber false (f.unsigned ++ q) = .ok (.natural n, r) ↔
      f.natural? = some n ∧ n ≤ greatestWord ∧ q = r := by
  rw [unsigned, List.append_assoc, List.append_assoc, f.readNumber_whole (f.pointed_undigited hq)]
  unfold natural? pointed raised
  rcases f.decimals with _ | d
  · rcases f.power with _ | p
    · have hhead : ∀ c ∈ q.head?, c ≠ '.' ∧ c ≠ 'e' ∧ c ≠ 'E' := by
        rcases hq.cases with rfl | ⟨c, q, rfl, _, hc⟩
        · intro c hc
          cases hc
        · rintro c ⟨⟩
          exact hc
      simp only [Option.elim_none, List.nil_append, and_iff_left hhead, hminus, and_self, if_true,
        Option.some.injEq]
    · have hmark : ¬ (p.mark ≠ '.' ∧ p.mark ≠ 'e' ∧ p.mark ≠ 'E') := by
        rcases p.hmark with h | h
        · simp [h]
        · simp [h]
      refine iff_of_false ?_ ?_
      · rintro ⟨-, -, -, hhead⟩
        exact hmark (hhead _ rfl)
      · simp
  · refine iff_of_false ?_ ?_
    · rintro ⟨-, -, -, hhead⟩
      exact (hhead _ rfl).1 rfl
    · simp

end Figure

end FirmwareUpdate.Json
