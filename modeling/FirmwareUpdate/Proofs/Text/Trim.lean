import FirmwareUpdate.Text.Blank
import Mathlib.Data.List.TakeWhile
import Mathlib.Tactic

/-! Texts without the characters of a kind at their ends. What is taken off is of that kind, and
what is left does not end in it. -/

namespace FirmwareUpdate.Text

variable {p : Char → Bool} {cs front back : List Char} {c : Char}

lemma dropWhile_split (p : Char → Bool) (cs : List Char) :
    ∃ front, cs = front ++ cs.dropWhile p ∧ ∀ c ∈ front, p c = true :=
  ⟨cs.takeWhile p, List.takeWhile_append_dropWhile.symm, fun _ hc => List.mem_takeWhile_imp hc⟩

lemma dropWhile_head (h : c ∈ (cs.dropWhile p).head?) : p c = false := by
  have hn := List.head?_dropWhile_not p cs
  rw [Option.mem_def.mp h] at hn
  exact hn

lemma dropWhile_append_of_all (h : ∀ c ∈ front, p c = true) (cs : List Char) :
    (front ++ cs).dropWhile p = cs.dropWhile p := by
  rw [List.dropWhile_append, List.dropWhile_eq_nil_iff.mpr h]
  rfl

lemma trimEnd_split (p : Char → Bool) (cs : List Char) :
    ∃ back, cs = trimEnd p cs ++ back ∧ ∀ c ∈ back, p c = true := by
  obtain ⟨front, hsplit, hfront⟩ := dropWhile_split p cs.reverse
  refine ⟨front.reverse, ?_, fun c hc => hfront c (List.mem_reverse.mp hc)⟩
  calc cs = cs.reverse.reverse := cs.reverse_reverse.symm
    _ = (front ++ cs.reverse.dropWhile p).reverse := by rw [← hsplit]
    _ = trimEnd p cs ++ front.reverse := by rw [List.reverse_append, trimEnd]

lemma trimEnd_last (h : c ∈ (trimEnd p cs).getLast?) : p c = false := by
  rw [trimEnd, List.getLast?_reverse] at h
  exact dropWhile_head h

lemma trimEnd_append_of_all (h : ∀ c ∈ back, p c = true) (cs : List Char) :
    trimEnd p (cs ++ back) = trimEnd p cs := by
  rw [trimEnd, List.reverse_append, dropWhile_append_of_all, trimEnd]
  intro c hc
  exact h c (List.mem_reverse.mp hc)

lemma trimEnd_eq_self (h : ∀ c ∈ cs.getLast?, p c = false) : trimEnd p cs = cs := by
  rcases cs.eq_nil_or_concat' with rfl | ⟨cs, c, rfl⟩
  · rfl
  · have hc : p c = false := h c (by simp)
    rw [trimEnd, List.reverse_append, List.reverse_singleton, List.singleton_append,
      List.dropWhile_cons_of_neg (by simp [hc]), List.reverse_cons, List.reverse_reverse]

lemma trimEnd_keeps (h : p c = false) (front back : List Char) :
    trimEnd p (front ++ c :: back) = front ++ c :: trimEnd p back := by
  rw [trimEnd, List.reverse_append, List.reverse_cons, List.append_assoc, List.dropWhile_append]
  split
  · next he =>
    have hback : back.reverse.dropWhile p = [] := List.isEmpty_iff.mp he
    simp [trimEnd, hback, h]
  · simp [trimEnd]

lemma trim_split (cs : List Char) :
    ∃ front back, cs = front ++ trim cs ++ back ∧ ∀ c ∈ front ++ back, isBlank c = true := by
  obtain ⟨front, hfront, hf⟩ := dropWhile_split isBlank cs
  obtain ⟨back, hback, hb⟩ := trimEnd_split isBlank (cs.dropWhile isBlank)
  refine ⟨front, back, ?_, ?_⟩
  · rw [trim, List.append_assoc, ← hback, ← hfront]
  · intro c hc
    exact (List.mem_append.mp hc).elim (hf c) (hb c)

lemma trim_eq {core : List Char} (hblank : ∀ c ∈ front ++ back, isBlank c = true)
    (hfirst : ∀ c ∈ core.head?, isBlank c = false) (hlast : ∀ c ∈ core.getLast?, isBlank c = false) :
    trim (front ++ core ++ back) = core := by
  have hf : ∀ c ∈ front, isBlank c = true := fun c hc => hblank c (List.mem_append_left _ hc)
  have hb : ∀ c ∈ back, isBlank c = true := fun c hc => hblank c (List.mem_append_right _ hc)
  rw [trim, List.append_assoc, dropWhile_append_of_all hf]
  cases core with
  | nil =>
    rw [List.nil_append, List.dropWhile_eq_nil_iff.mpr hb]
    rfl
  | cons c core =>
    rw [List.cons_append, List.dropWhile_cons_of_neg (by simpa using hfirst c rfl),
      ← List.cons_append, trimEnd_append_of_all hb, trimEnd_eq_self hlast]

end FirmwareUpdate.Text
