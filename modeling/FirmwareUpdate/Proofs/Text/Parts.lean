import FirmwareUpdate.Text.Table
import Mathlib.Data.List.Basic
import Mathlib.Tactic

/-! The parts of a text between its separators. There is always one, and no part contains a
separator. -/

namespace FirmwareUpdate.Text

variable {c : Char} {cs p : List Char}

lemma parts_ne_nil (c : Char) (cs : List Char) : parts c cs ≠ [] := by
  cases cs with
  | nil => simp [parts]
  | cons d cs =>
    rw [parts]
    split
    · simp
    · split <;> simp

lemma parts_cons_of_ne {c d : Char} (h : d ≠ c) (cs : List Char) :
    ∃ p ps, parts c cs = p :: ps ∧ parts c (d :: cs) = (d :: p) :: ps := by
  obtain ⟨p, ps, hp⟩ := List.exists_cons_of_ne_nil (parts_ne_nil c cs)
  refine ⟨p, ps, hp, ?_⟩
  rw [parts, if_neg h, hp]

lemma parts_append (c : Char) (T r : List Char) :
    parts c (T ++ c :: r) = parts c T ++ parts c r := by
  induction T with
  | nil => simp [parts]
  | cons d T ih =>
    by_cases h : d = c
    · subst h
      simp [parts, ih]
    · obtain ⟨p, ps, hp, hd⟩ := parts_cons_of_ne h T
      obtain ⟨q, qs, hq, hd'⟩ := parts_cons_of_ne h (T ++ c :: r)
      rw [ih, hp, List.cons_append] at hq
      obtain ⟨rfl, rfl⟩ := List.cons_eq_cons.mp hq
      rw [List.cons_append, hd', hd, List.cons_append]

lemma mem_of_mem_parts {c d : Char} {cs p : List Char} (hp : p ∈ parts c cs) (hd : d ∈ p) :
    d ∈ cs := by
  induction cs generalizing p with
  | nil =>
    rw [parts, List.mem_singleton] at hp
    subst hp
    cases hd
  | cons e cs ih =>
    by_cases h : e = c
    · rw [parts, if_pos h, List.mem_cons] at hp
      rcases hp with rfl | hp
      · cases hd
      · exact List.mem_cons_of_mem e (ih hp hd)
    · obtain ⟨q, qs, hq, he⟩ := parts_cons_of_ne h cs
      rw [he, List.mem_cons] at hp
      rw [hq] at ih
      rcases hp with rfl | hp
      · rcases List.mem_cons.mp hd with rfl | hd
        · exact List.mem_cons_self
        · exact List.mem_cons_of_mem e (ih List.mem_cons_self hd)
      · exact List.mem_cons_of_mem e (ih (List.mem_cons_of_mem q hp) hd)

lemma parts_of_notMem (h : c ∉ cs) : parts c cs = [cs] := by
  induction cs with
  | nil => rfl
  | cons d cs ih =>
    rw [List.mem_cons, not_or] at h
    obtain ⟨p, ps, hp, hd⟩ := parts_cons_of_ne (Ne.symm h.1) cs
    obtain ⟨rfl, rfl⟩ := List.cons_eq_cons.mp ((ih h.2).symm.trans hp)
    exact hd

lemma parts_last {front : List (List Char)} (h : parts c cs = front ++ [p]) :
    c ∉ p ∧ (cs = p ∨ ∃ before, cs = before ++ c :: p) := by
  by_cases hm : c ∈ cs
  · obtain ⟨after, before, hsplit, hafter⟩ := List.eq_append_cons_of_mem (List.mem_reverse.mpr hm)
    have hcs : cs = before.reverse ++ c :: after.reverse := by
      rw [← List.reverse_reverse cs, hsplit]
      simp
    have hn : c ∉ after.reverse := fun h => hafter (List.mem_reverse.mp h)
    rw [hcs, parts_append, parts_of_notMem hn] at h
    obtain rfl : after.reverse = p := by simpa using congrArg List.getLast? h
    exact ⟨hn, .inr ⟨before.reverse, hcs⟩⟩
  · rw [parts_of_notMem hm] at h
    obtain rfl : cs = p := by simpa using congrArg List.getLast? h
    exact ⟨hm, .inl rfl⟩

end FirmwareUpdate.Text
