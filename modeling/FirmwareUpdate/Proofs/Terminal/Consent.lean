import FirmwareUpdate.Proofs.Text.Trim
import FirmwareUpdate.Terminal.Text

/-! The answers that count as consent: one word for yes, in letters of either case, and white space
around it. White space inside, a second answer or any other letter make it something else. -/

namespace FirmwareUpdate.Terminal

open Text

variable {cs word front back : List Char} {c l : Char}

def whiteSpace : List ℕ :=
  [0x9, 0xA, 0xB, 0xC, 0xD, 0x20, 0x85, 0xA0, 0x1680, 0x2000, 0x2001, 0x2002, 0x2003, 0x2004, 0x2005,
    0x2006, 0x2007, 0x2008, 0x2009, 0x200A, 0x2028, 0x2029, 0x202F, 0x205F, 0x3000]

def White (c : Char) : Prop := c.toNat ∈ whiteSpace

instance (c : Char) : Decidable (White c) := inferInstanceAs (Decidable (c.toNat ∈ whiteSpace))

lemma isBlank_iff : isBlank c = true ↔ White c := by
  simp only [isBlank, White, whiteSpace, Bool.or_eq_true, Bool.and_eq_true, decide_eq_true_eq,
    beq_iff_eq, List.mem_cons, List.not_mem_nil, or_false]
  omega

lemma isBlank_eq_false_iff : isBlank c = false ↔ ¬ White c := by
  rw [← isBlank_iff, Bool.not_eq_true]

def EitherCase (l c : Char) : Prop := c = l ∨ c = l.toUpper

def letters : List Char := ['y', 'Y', 'e', 'E', 's', 'S']

lemma toLower_toNat (c : Char) :
    c.toLower.toNat = if 65 ≤ c.toNat ∧ c.toNat ≤ 90 then c.toNat + 32 else c.toNat := by
  have hcapital : (c.val ≥ 'A'.val ∧ c.val ≤ 'Z'.val) ↔ 65 ≤ c.toNat ∧ c.toNat ≤ 90 := by
    rw [ge_iff_le, UInt32.le_iff_toNat_le, UInt32.le_iff_toNat_le]
    rfl
  by_cases h : c.val ≥ 'A'.val ∧ c.val ≤ 'Z'.val
  · have hlow : c.toLower.val = c.val + ('a'.val - 'A'.val) := congrArg Char.val (dif_pos h)
    have hshift : ('a'.val - 'A'.val).toNat = 32 := rfl
    have hn := hcapital.mp h
    rw [if_pos hn, Char.toNat, hlow, UInt32.toNat_add, hshift]
    change (c.toNat + 32) % 2 ^ 32 = c.toNat + 32
    omega
  · rw [if_neg (mt hcapital.mpr h)]
    exact congrArg Char.toNat (dif_neg h)

lemma toLower_eq_iff (hl : l ∈ ['y', 'e', 's']) : c.toLower = l ↔ EitherCase l c := by
  have hnat : ∀ a b : Char, a = b ↔ a.toNat = b.toNat := fun a b =>
    ⟨congrArg _, fun h => Char.ext (UInt32.toNat_inj.mp h)⟩
  simp only [EitherCase, hnat c, hnat c.toLower, toLower_toNat]
  simp only [List.mem_cons, List.not_mem_nil, or_false] at hl
  rcases hl with rfl | rfl | rfl
  · simp only [show 'y'.toNat = 121 from rfl, show 'y'.toUpper.toNat = 89 from rfl]
    split <;> omega
  · simp only [show 'e'.toNat = 101 from rfl, show 'e'.toUpper.toNat = 69 from rfl]
    split <;> omega
  · simp only [show 's'.toNat = 115 from rfl, show 's'.toUpper.toNat = 83 from rfl]
    split <;> omega

lemma map_toLower_iff {ls : List Char} (hl : ∀ l ∈ ls, l ∈ ['y', 'e', 's']) :
    cs.map Char.toLower = ls ↔ List.Forall₂ EitherCase ls cs := by
  induction ls generalizing cs with
  | nil => rw [List.map_eq_nil_iff, List.forall₂_nil_left_iff]
  | cons l ls ih =>
    obtain ⟨hfirst, hrest⟩ := List.forall_mem_cons.mp hl
    cases cs with
    | nil => exact iff_of_false (List.cons_ne_nil _ _).symm (by rintro ⟨⟩)
    | cons c cs =>
      rw [List.map_cons, List.cons_eq_cons, List.forall₂_cons, toLower_eq_iff hfirst, ih hrest]

lemma EitherCase.mem_letters (h : EitherCase l c) (hl : l ∈ ['y', 'e', 's']) : c ∈ letters := by
  simp only [List.mem_cons, List.not_mem_nil, or_false] at hl
  rcases hl with rfl | rfl | rfl <;> rcases h with rfl | rfl <;> decide

def Agrees (word : List Char) : Prop :=
  List.Forall₂ EitherCase ['y'] word ∨ List.Forall₂ EitherCase ['y', 'e', 's'] word

namespace Agrees

lemma length (h : Agrees word) : word.length = 1 ∨ word.length = 3 := by
  rcases h with h | h
  · exact .inl h.length_eq.symm
  · exact .inr h.length_eq.symm

lemma mem_letters (h : Agrees word) (hc : c ∈ word) : c ∈ letters := by
  obtain ⟨ls, hls, hl⟩ : ∃ ls, List.Forall₂ EitherCase ls word ∧ ∀ l ∈ ls, l ∈ ['y', 'e', 's'] := by
    rcases h with h | h
    · exact ⟨_, h, by simp⟩
    · exact ⟨_, h, fun l hl => hl⟩
  obtain ⟨i, hi, rfl⟩ := List.getElem_of_mem hc
  have hlt : i < ls.length := hls.length_eq ▸ hi
  exact (hls.get hlt hi).mem_letters (hl _ (List.getElem_mem hlt))

lemma not_white (h : Agrees word) (hc : c ∈ word) : ¬ White c := by
  have hm := h.mem_letters hc
  rw [← isBlank_eq_false_iff]
  simp only [letters, List.mem_cons, List.not_mem_nil, or_false] at hm
  rcases hm with rfl | rfl | rfl | rfl | rfl | rfl <;> rfl

lemma trimmed (h : Agrees word) (hwhite : ∀ c ∈ front ++ back, White c) :
    trim (front ++ word ++ back) = word := by
  apply trim_eq
  · exact fun c hc => isBlank_iff.mpr (hwhite c hc)
  · exact fun c hc => isBlank_eq_false_iff.mpr (h.not_white (List.mem_of_mem_head? hc))
  · exact fun c hc => isBlank_eq_false_iff.mpr (h.not_white (List.mem_of_getLast? hc))

end Agrees

inductive Consents : List Char → Prop
  | intro {front word back : List Char} (hwhite : ∀ c ∈ front ++ back, White c)
      (hword : Agrees word) : Consents (front ++ word ++ back)

lemma isYes_trim : isYes cs = true ↔ Agrees (trim cs) := by
  rw [isYes, Bool.or_eq_true, beq_iff_eq, beq_iff_eq, map_toLower_iff (by simp),
    map_toLower_iff fun l hl => hl, Agrees]

lemma isYes_iff : isYes cs = true ↔ Consents cs := by
  rw [isYes_trim]
  constructor
  · intro h
    obtain ⟨front, back, hcs, hblank⟩ := trim_split cs
    rw [hcs]
    exact .intro (fun c hc => isBlank_iff.mp (hblank c hc)) h
  · rintro @⟨front, word, back, hwhite, hword⟩
    rwa [hword.trimmed hwhite]

def visible (cs : List Char) : List Char :=
  cs.filter fun c => !isBlank c

lemma mem_visible : c ∈ visible cs ↔ c ∈ cs ∧ ¬ White c := by
  rw [visible, List.mem_filter, Bool.not_eq_true', isBlank_eq_false_iff]

lemma visible_append (front back : List Char) :
    visible (front ++ back) = visible front ++ visible back :=
  List.filter_append front back

lemma visible_white (h : ∀ c ∈ cs, White c) : visible cs = [] := by
  rw [List.eq_nil_iff_forall_not_mem]
  intro c hc
  obtain ⟨hm, hw⟩ := mem_visible.mp hc
  exact hw (h c hm)

namespace Consents

lemma agrees (h : Consents cs) : Agrees (visible cs) := by
  obtain @⟨front, word, back, hwhite, hword⟩ := h
  have hvisible : visible word = word := by
    rw [visible, List.filter_eq_self]
    intro c hc
    rw [isBlank_eq_false_iff.mpr (hword.not_white hc), Bool.not_false]
  rw [visible_append, visible_append, hvisible,
    visible_white fun c hc => hwhite c (List.mem_append_left _ hc),
    visible_white fun c hc => hwhite c (List.mem_append_right _ hc), List.append_nil]
  exact hword

lemma not_all_white (h : Consents cs) : ¬ ∀ c ∈ cs, White c := by
  intro hall
  have hlength := h.agrees.length
  rw [visible_white hall] at hlength
  simp at hlength

lemma mem_letters (h : Consents cs) (hc : c ∈ cs) (hw : ¬ White c) : c ∈ letters :=
  h.agrees.mem_letters (mem_visible.mpr ⟨hc, hw⟩)

lemma not_twice (hf : Consents front) (hb : Consents back) : ¬ Consents (front ++ back) := by
  intro h
  have hlength := h.agrees.length
  rw [visible_append, List.length_append] at hlength
  rcases hf.agrees.length with h1 | h1 <;> rcases hb.agrees.length with h2 | h2 <;> omega

lemma white_outside (h : Consents (front ++ c :: back)) (hc : White c) :
    (∀ d ∈ front, White d) ∨ ∀ d ∈ back, White d := by
  generalize hcs : front ++ c :: back = cs at h
  obtain @⟨before, word, after, hwhite, hword⟩ := h
  rcases List.append_eq_append_iff.mp hcs with ⟨l, hl, hback⟩ | ⟨l, -, hafter⟩
  · rcases List.append_eq_append_iff.mp hl with ⟨k, -, hk⟩ | ⟨k, hbefore, -⟩
    · cases l with
      | nil =>
        obtain rfl : c :: back = after := hback
        exact .inr fun d hd => hwhite d (by simp [hd])
      | cons d l =>
        -- the word has no white space
        obtain ⟨rfl, -⟩ := List.cons.inj hback
        exact absurd hc (hword.not_white (by simp [hk]))
    · exact .inl fun d hd => hwhite d (by simp [hbefore, hd])
  · exact .inr fun d hd => hwhite d (by simp [hafter, hd])

end Consents

theorem consent_exact (cs : List Char) :
    (isYes cs = true ↔ Consents cs) ∧
    ((∀ c ∈ cs, White c) → isYes cs = false) ∧
    (∀ c ∈ cs, ¬ White c → c ∉ letters → isYes cs = false) ∧
    (∀ front c back, cs = front ++ c :: back → White c → (∃ d ∈ front, ¬ White d) →
      (∃ d ∈ back, ¬ White d) → isYes cs = false) ∧
    ∀ front back, cs = front ++ back → Consents front → Consents back → isYes cs = false := by
  have hrefused : ¬ Consents cs → isYes cs = false := by
    intro h
    rwa [← isYes_iff, Bool.not_eq_true] at h
  refine ⟨isYes_iff, fun hwhite => hrefused fun h => h.not_all_white hwhite, ?_, ?_, ?_⟩
  · intro c hc hw hletter
    exact hrefused fun h => hletter (h.mem_letters hc hw)
  · rintro front c back rfl hc ⟨d, hd, hdw⟩ ⟨e, he, hew⟩
    apply hrefused
    intro h
    rcases h.white_outside hc with hfront | hback
    · exact hdw (hfront d hd)
    · exact hew (hback e he)
  · rintro front back rfl hfront hback
    exact hrefused (hfront.not_twice hback)

theorem consent_exact_foldings :
    isYes ['\u3000', 'Y', 'e', 'S', '\r', '\n'] = true ∧ isYes ['\u3000'] = false ∧
    isYes ['y', 'e', '\u017F'] = false ∧ isYes ['y', ' ', 's'] = false ∧
    isYes ['y', 'Y'] = false := by
  have hy : ∀ c ∈ ['y', 'Y'], Consents [c] := by
    intro c hc
    simp only [List.mem_cons, List.not_mem_nil, or_false] at hc
    have h : EitherCase 'y' c := hc
    exact @Consents.intro [] [c] [] (by simp) (.inl (.cons h .nil))
  have hyes : Agrees ['Y', 'e', 'S'] :=
    .inr (.cons (.inr rfl) (.cons (.inl rfl) (.cons (.inr rfl) .nil)))
  have hwhite : ∀ c ∈ ['\u3000'] ++ ['\r', '\n'], White c := by simp [White, whiteSpace]
  refine ⟨(consent_exact _).1.mpr (@Consents.intro ['\u3000'] _ _ hwhite hyes), ?_, ?_, ?_, ?_⟩
  · exact (consent_exact _).2.1 (by simp [White, whiteSpace])
  · exact (consent_exact _).2.2.1 '\u017F' (by decide) (by decide) (by decide)
  · exact (consent_exact _).2.2.2.1 ['y'] ' ' ['s'] rfl (by decide) ⟨'y', by decide, by decide⟩
      ⟨'s', by decide, by decide⟩
  · exact (consent_exact _).2.2.2.2 ['y'] ['Y'] rfl (hy 'y' (by decide)) (hy 'Y' (by decide))

end FirmwareUpdate.Terminal
