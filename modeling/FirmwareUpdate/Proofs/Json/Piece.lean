import FirmwareUpdate.Proofs.Json.Text

/-! The pieces that texts are made of: characters that stand for themselves, and escapes. A text
that is not needed may be made of any pieces; in one that is needed, the escapes of surrogates
come in pairs. -/

namespace FirmwareUpdate.Json

structure HexDigit where
  char : Char
  value : ℕ
  means : hexDigit? char = some value

structure Code where
  a : HexDigit
  b : HexDigit
  c : HexDigit
  d : HexDigit

namespace Code

def unit (u : Code) : ℕ :=
  ((u.a.value * 16 + u.b.value) * 16 + u.c.value) * 16 + u.d.value

def digits (u : Code) : List Char :=
  [u.a.char, u.b.char, u.c.char, u.d.char]

def IsHigh (u : Code) : Prop :=
  0xD800 ≤ u.unit ∧ u.unit ≤ 0xDBFF

def IsLow (u : Code) : Prop :=
  0xDC00 ≤ u.unit ∧ u.unit ≤ 0xDFFF

instance (u : Code) : Decidable u.IsHigh := inferInstanceAs (Decidable (_ ∧ _))

instance (u : Code) : Decidable u.IsLow := inferInstanceAs (Decidable (_ ∧ _))

def paired (high low : Code) : Char :=
  .ofNat ((high.unit - 0xD800) * 0x400 + (low.unit - 0xDC00) + 0x10000)

lemma quad_digits (u : Code) (q : List Char) : quad (u.digits ++ q) = .ok (u.unit, q) := by
  simp only [quad, digits, List.cons_append, List.nil_append, u.a.means, u.b.means, u.c.means,
    u.d.means]
  rfl

end Code

def letters : List (Char × Char) :=
  [('"', '"'), ('\\', '\\'), ('/', '/'), ('b', '\x08'), ('f', '\x0c'), ('n', '\n'), ('r', '\r'),
    ('t', '\t')]

inductive Piece
  | plain (c : Char) (hquote : c ≠ '"') (hback : c ≠ '\\') (hcontrol : 0x20 ≤ c.toNat)
  | letter (e c : Char) (h : (e, c) ∈ letters)
  | code (u : Code)

def Piece.spelling : Piece → List Char
  | .plain c .. => [c]
  | .letter e .. => ['\\', e]
  | .code u => '\\' :: 'u' :: u.digits

def spelled (ps : List Piece) : List Char :=
  ps.flatMap Piece.spelling ++ ['"']

def decoded? : List Piece → Option (List Char)
  | [] => some []
  | .plain c .. :: ps => (decoded? ps).map (c :: ·)
  | .letter _ c _ :: ps => (decoded? ps).map (c :: ·)
  | .code u :: ps =>
      if u.IsLow then none
      else if u.IsHigh then
        match ps with
        | .code v :: ps => if v.IsLow then (decoded? ps).map (u.paired v :: ·) else none
        | _ => none
      else (decoded? ps).map (.ofNat u.unit :: ·)

variable {cs q : List Char} {ps : List Piece}

lemma spelled_cons (p : Piece) (ps : List Piece) (q : List Char) :
    spelled (p :: ps) ++ q = p.spelling ++ (spelled ps ++ q) := by
  simp [spelled]

lemma readText_backslash (cs : List Char) :
    (readText ('\\' :: cs)).toOption = (escape cs).toOption.bind fun (c, r) =>
      (readText r).toOption.map fun (t, r) => (c :: t, r) := by
  rw [readText]
  split
  · rename_i f h
    rw [h]
    rfl
  · rename_i c r h
    rw [h]
    exact toOption_map _ _

lemma escape_letters (q : List Char) : ∀ p ∈ letters, escape (p.1 :: q) = .ok (p.2, q) := by
  simp [letters, escape]

lemma escape_code (u : Code) (q : List Char) :
    escape ('u' :: (u.digits ++ q)) =
      if u.IsLow then .error (behind q .loneSurrogate)
      else if u.IsHigh then lowSurrogate u.unit q
      else .ok (.ofNat u.unit, q) := by
  rw [escape, u.quad_digits]
  rfl

lemma lowSurrogate_code (u v : Code) (q : List Char) :
    lowSurrogate u.unit ('\\' :: 'u' :: (v.digits ++ q)) =
      if v.IsLow then .ok (u.paired v, q) else .error (behind q .loneSurrogate) := by
  rw [lowSurrogate, v.quad_digits]
  rfl

lemma lowSurrogate_other (u : Code) (hps : ∀ v ps', ps ≠ .code v :: ps') :
    (lowSurrogate u.unit (spelled ps ++ q)).toOption = none := by
  cases ps with
  | nil => rfl
  | cons p ps =>
    rw [spelled_cons]
    cases p with
    | plain c hquote hback hcontrol => simp [Piece.spelling, lowSurrogate, hback, Except.toOption]
    | letter e c h =>
      have hu : ∀ p ∈ letters, p.1 ≠ 'u' := by decide
      rw [Piece.spelling, List.cons_append, List.cons_append, lowSurrogate]
      · rfl
      · exact hu _ h
    | code v => exact absurd rfl (hps v ps)

lemma map_cons (o : Option (List Char)) (c : Char) (q : List Char) :
    (o.map (·, q)).map (fun (t, r) => (c :: t, r)) = (o.map (c :: ·)).map (·, q) := by
  cases o <;> rfl

theorem readText_spelled (ps : List Piece) (q : List Char) :
    (readText (spelled ps ++ q)).toOption = (decoded? ps).map (·, q) := by
  fun_induction decoded? ps with
  | case1 =>
    rw [spelled, List.flatMap_nil, List.nil_append, List.singleton_append, readText_quote]
    rfl
  | case2 c hquote hback hcontrol ps ih =>
    rw [spelled_cons, Piece.spelling, List.singleton_append,
      readText_plain hquote hback (Nat.not_lt.mpr hcontrol), toOption_map, ih, map_cons]
  | case3 e c h ps ih =>
    rw [spelled_cons, Piece.spelling, List.cons_append, List.singleton_append, readText_backslash,
      escape_letters _ _ h, ← map_cons, ← ih]
    rfl
  | case4 u ps hlow =>
    rw [spelled_cons, Piece.spelling, List.cons_append, List.cons_append, readText_backslash,
      escape_code, if_pos hlow]
    rfl
  | case5 u hlow hhigh v ps hpair ih =>
    rw [spelled_cons, spelled_cons]
    simp only [Piece.spelling, List.cons_append]
    rw [readText_backslash, escape_code, if_neg hlow, if_pos hhigh, lowSurrogate_code, if_pos hpair,
      ← map_cons, ← ih]
    rfl
  | case6 u hlow hhigh v ps hpair =>
    rw [spelled_cons, spelled_cons]
    simp only [Piece.spelling, List.cons_append]
    rw [readText_backslash, escape_code, if_neg hlow, if_pos hhigh, lowSurrogate_code, if_neg hpair]
    rfl
  | case7 u ps hlow hhigh hps =>
    rw [spelled_cons, Piece.spelling, List.cons_append, List.cons_append, readText_backslash,
      escape_code, if_neg hlow, if_pos hhigh, lowSurrogate_other u hps]
    rfl
  | case8 u ps hlow hhigh ih =>
    rw [spelled_cons, Piece.spelling, List.cons_append, List.cons_append, readText_backslash,
      escape_code, if_neg hlow, if_neg hhigh, ← map_cons, ← ih]
    rfl

lemma skipEscape_letters (q : List Char) : ∀ p ∈ letters, skipEscape (p.1 :: q) = .ok q := by
  simp [letters, skipEscape]

lemma skipText_backslash {r : List Char} (h : skipEscape cs = .ok r) :
    skipText ('\\' :: cs) = skipText r := by
  rw [skipText]
  split
  · rename_i h'
    cases h.symm.trans h'
  · rename_i h'
    cases h.symm.trans h'
    rfl

theorem skipText_spelled (ps : List Piece) (q : List Char) : skipText (spelled ps ++ q) = .ok q := by
  induction ps with
  | nil =>
    rw [spelled, List.flatMap_nil, List.nil_append, List.singleton_append, skipText]
  | cons p ps ih =>
    rw [spelled_cons, ← ih]
    cases p with
    | plain c hquote hback hcontrol =>
      rw [Piece.spelling, List.singleton_append, skipText, if_neg (Nat.not_lt.mpr hcontrol)]
      · exact hquote
      · exact hback
    | letter e c h => exact skipText_backslash (skipEscape_letters _ _ h)
    | code u =>
      rw [Piece.spelling, List.cons_append, List.cons_append]
      apply skipText_backslash
      rw [skipEscape, u.quad_digits]

end FirmwareUpdate.Json
