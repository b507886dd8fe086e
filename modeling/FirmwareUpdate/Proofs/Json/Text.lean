import FirmwareUpdate.Json.Text
import FirmwareUpdate.Proofs.Except
import Mathlib.Data.List.TakeWhile
import Mathlib.Tactic

/-! Texts of a longer text. What a reader gives back up to the closing quote does not change when
more text follows. -/

namespace FirmwareUpdate.Json

variable {cs t r q : List Char} {c : Char}

lemma skipSpace_append (h : skipSpace cs = c :: r) (q : List Char) :
    skipSpace (cs ++ q) = c :: (r ++ q) := by
  rw [skipSpace, List.dropWhile_append, ← skipSpace, h]
  rfl

lemma skipSpace_append_of_nil (h : skipSpace cs = []) (q : List Char) :
    skipSpace (cs ++ q) = skipSpace q := by
  rw [skipSpace, List.dropWhile_append, ← skipSpace, h]
  rfl

lemma skipSpace_eq_nil : skipSpace cs = [] ↔ ∀ c ∈ cs, isSpace c = true :=
  List.dropWhile_eq_nil_iff

lemma quad_append {n : Nat} (h : quad cs = .ok (n, r)) (q : List Char) :
    quad (cs ++ q) = .ok (n, r ++ q) := by
  unfold quad at h
  dsimp only at h
  split at h
  · split at h
    · rename_i ha hb hc hd
      cases h
      simp [quad, ha, hb, hc, hd]
    · split_ifs at h
  · split_ifs at h

lemma lowSurrogate_append {high : Nat} (h : lowSurrogate high cs = .ok (c, r)) (q : List Char) :
    lowSurrogate high (cs ++ q) = .ok (c, r ++ q) := by
  unfold lowSurrogate at h
  split at h
  · cases h
  · split at h
    · cases h
    · rename_i low rest hquad
      split_ifs at h with hlow
      obtain ⟨rfl, rfl⟩ := Prod.mk.inj (Except.ok.inj h)
      simp [lowSurrogate, quad_append hquad, hlow]
  all_goals cases h

lemma escape_append (h : escape cs = .ok (c, r)) (q : List Char) :
    escape (cs ++ q) = .ok (c, r ++ q) := by
  unfold escape at h
  split at h
  case h_10 =>
    split at h
    · cases h
    · rename_i n rest hquad
      have hquad := quad_append hquad q
      split_ifs at h with hlow hhigh
      · simpa [escape, hquad, hlow, hhigh] using lowSurrogate_append h q
      · cases h
        simp [escape, hquad, hlow, hhigh]
  all_goals
    cases h
    try rfl

lemma readText_quote (cs : List Char) : readText ('"' :: cs) = .ok ([], cs) := by
  rw [readText]

lemma readText_escape (h : escape cs = .ok (c, r)) :
    readText ('\\' :: cs) = (readText r).map fun (t, r) => (c :: t, r) := by
  rw [readText]
  split
  · rename_i h'
    cases h.symm.trans h'
  · rename_i h'
    cases h.symm.trans h'
    rfl

lemma readText_plain (hquote : c ≠ '"') (hback : c ≠ '\\') (hcontrol : ¬c.toNat < 0x20) :
    readText (c :: cs) = (readText cs).map fun (t, r) => (c :: t, r) := by
  rw [readText]
  · rw [if_neg hcontrol]
  · exact hquote
  · exact hback

lemma readText_append (h : readText cs = .ok (t, r)) (q : List Char) :
    readText (cs ++ q) = .ok (t, r ++ q) := by
  fun_induction readText cs generalizing t r with
  | case1 => cases h
  | case2 =>
    cases h
    exact readText_quote _
  | case3 => cases h
  | case4 cs c rest he ih =>
    obtain ⟨⟨t, r⟩, hr, heq⟩ := of_map_ok h
    cases heq
    rw [List.cons_append, readText_escape (escape_append he q), ih hr]
    rfl
  | case5 => cases h
  | case6 c cs hquote hback hcontrol ih =>
    obtain ⟨⟨t, r⟩, hr, heq⟩ := of_map_ok h
    cases heq
    rw [List.cons_append, readText_plain hquote hback hcontrol, ih hr]
    rfl

lemma skipEscape_append (h : skipEscape cs = .ok r) (q : List Char) :
    skipEscape (cs ++ q) = .ok (r ++ q) := by
  unfold skipEscape at h
  split at h
  · cases h
  · split at h
    · cases h
    · rename_i n rest hquad
      cases h
      simp [skipEscape, quad_append hquad]
  · rename_i c cs hu
    split_ifs at h with hc
    cases h
    rw [List.cons_append, skipEscape, if_pos hc]
    exact hu

lemma skipText_append (h : skipText cs = .ok r) (q : List Char) :
    skipText (cs ++ q) = .ok (r ++ q) := by
  fun_induction skipText cs with
  | case1 => cases h
  | case2 =>
    cases h
    rw [List.cons_append, skipText]
  | case3 => cases h
  | case4 cs rest he ih =>
    have he := skipEscape_append he q
    rw [List.cons_append, skipText]
    split
    · rename_i he'
      cases he.symm.trans he'
    · rename_i he'
      cases he.symm.trans he'
      exact ih h
  | case5 => cases h
  | case6 c cs hquote hback hcontrol ih =>
    rw [List.cons_append, skipText, if_neg hcontrol]
    · exact ih h
    · exact hquote
    · exact hback

end FirmwareUpdate.Json
