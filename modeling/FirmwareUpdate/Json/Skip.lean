import FirmwareUpdate.Json.Length

/-! Passing over a value that is not needed. The brackets that are open lie on a stack, so a value
may be nested to any depth. -/

namespace FirmwareUpdate.Json

def readIdentifier : List Char → List Char → Except Fault (List Char)
  | [], cs => .ok cs
  | _ :: _, [] => .error (behind [] .endOfValue)
  | e :: es, c :: cs =>
      if c = e then readIdentifier es cs else .error (ahead (c :: cs) .expectedIdentifier)

theorem readIdentifier_length {es cs rest : List Char} (h : readIdentifier es cs = .ok rest) :
    rest.length ≤ cs.length := by
  induction es generalizing cs with
  | nil => simp only [readIdentifier, Except.ok.injEq] at h; simp [← h]
  | cons e es ih =>
    cases cs with
    | nil => simp [readIdentifier] at h
    | cons c cs =>
      simp only [readIdentifier] at h
      split at h
      · exact Nat.le_succ_of_le (ih h)
      · simp at h

inductive Bracket
  | list
  | object
  deriving DecidableEq

namespace Bracket

def opening? : Char → Option Bracket
  | '[' => some .list
  | '{' => some .object
  | _ => none

def close : Bracket → Char
  | .list => ']'
  | .object => '}'

def cut : Bracket → Cause
  | .list => .endOfList
  | .object => .endOfObject

def unfinished : Bracket → Cause
  | .list => .expectedElement
  | .object => .expectedMember

end Bracket

def skipScalar : List Char → Except Fault (List Char)
  | [] => .error (ahead [] .endOfValue)
  | 'n' :: cs => readIdentifier ['u', 'l', 'l'] cs
  | 't' :: cs => readIdentifier ['r', 'u', 'e'] cs
  | 'f' :: cs => readIdentifier ['a', 'l', 's', 'e'] cs
  | '-' :: cs => skipNumber cs
  | '"' :: cs => skipText cs
  | c :: cs =>
      if c.isDigit then skipNumber (c :: cs) else .error (ahead (c :: cs) .expectedValue)

theorem skipScalar_length {cs rest : List Char} (h : skipScalar cs = .ok rest) :
    rest.length < cs.length := by
  unfold skipScalar at h
  split at h
  · simp at h
  · exact Nat.lt_succ_of_le (readIdentifier_length h)
  · exact Nat.lt_succ_of_le (readIdentifier_length h)
  · exact Nat.lt_succ_of_le (readIdentifier_length h)
  · exact Nat.lt_succ_of_lt (skipNumber_length h)
  · exact Nat.lt_succ_of_lt (skipText_length h)
  · split at h
    · exact skipNumber_length h
    · simp at h

def readColon (cs : List Char) : Except Fault (List Char) :=
  match skipSpace cs with
  | [] => .error (ahead [] .endOfObject)
  | ':' :: r => .ok r
  | r => .error (ahead r .expectedColon)

theorem readColon_length {cs rest : List Char} (h : readColon cs = .ok rest) :
    rest.length < cs.length := by
  have hl := skipSpace_length cs
  unfold readColon at h
  split at h
  · simp at h
  · rename_i hs
    simp only [Except.ok.injEq] at h
    simp only [hs, h, List.length_cons] at hl
    omega
  · simp at h

def skipKey (cs : List Char) : Except Fault (List Char) :=
  match skipSpace cs with
  | [] => .error (ahead [] .endOfObject)
  | '"' :: r =>
      match skipText r with
      | .error f => .error f
      | .ok r => readColon r
  | r => .error (ahead r .keyNotText)

theorem skipKey_length {cs rest : List Char} (h : skipKey cs = .ok rest) :
    rest.length < cs.length := by
  have hl := skipSpace_length cs
  unfold skipKey at h
  split at h
  · simp at h
  · rename_i hs
    split at h
    · simp at h
    · rename_i ht
      have := skipText_length ht
      have := readColon_length h
      simp only [hs, List.length_cons] at hl
      omega
  · simp at h

def Bracket.enter : Bracket → List Char → Except Fault (List Char)
  | .list, cs => .ok cs
  | .object, cs => skipKey cs

theorem Bracket.enter_length {b : Bracket} {cs rest : List Char} (h : b.enter cs = .ok rest) :
    rest.length ≤ cs.length := by
  cases b with
  | list => simp only [enter, Except.ok.injEq] at h; simp [← h]
  | object => exact Nat.le_of_lt (skipKey_length h)

def Bracket.opened (b : Bracket) (cs : List Char) : Except Fault (Bool × List Char) :=
  match skipSpace cs with
  | [] => .error (ahead [] b.cut)
  | c :: r => if c = b.close then .ok (true, r) else .ok (false, c :: r)

theorem Bracket.opened_length {b : Bracket} {done : Bool} {cs rest : List Char}
    (h : b.opened cs = .ok (done, rest)) : rest.length ≤ cs.length := by
  have hl := skipSpace_length cs
  unfold opened at h
  split at h
  · simp at h
  · rename_i hs
    rw [hs] at hl
    split at h <;> simp only [Except.ok.injEq, Prod.mk.injEq] at h <;> rw [← h.2]
    · exact Nat.le_of_succ_le hl
    · exact hl

mutual

def skipInside (nest : List Bracket) (cs : List Char) : Except Fault (List Char) :=
  match _hs : skipSpace cs with
  | [] => .error (ahead [] .endOfValue)
  | c :: r =>
      match Bracket.opening? c with
      | some b =>
          match _ho : b.opened r with
          | .error f => .error f
          | .ok (true, r) => skipAfter nest r
          | .ok (false, r) =>
              match _he : b.enter r with
              | .error f => .error f
              | .ok r => skipInside (b :: nest) r
      | none =>
          match _hv : skipScalar (c :: r) with
          | .error f => .error f
          | .ok r => skipAfter nest r
termination_by cs.length
decreasing_by
  all_goals
    have hl := skipSpace_length cs
    rw [_hs, List.length_cons] at hl
  · have := Bracket.opened_length _ho
    omega
  · have := Bracket.opened_length _ho
    have := Bracket.enter_length _he
    omega
  · have := skipScalar_length _hv
    simp only [List.length_cons] at this
    omega

def skipAfter (nest : List Bracket) (cs : List Char) : Except Fault (List Char) :=
  match nest with
  | [] => .ok cs
  | b :: nest =>
      match _hs : skipSpace cs with
      | [] => .error (ahead [] b.cut)
      | c :: r =>
          if c = ',' then
            match _he : b.enter r with
            | .error f => .error f
            | .ok r => skipInside (b :: nest) r
          else if c = b.close then skipAfter nest r
          else .error (ahead (c :: r) b.unfinished)
termination_by cs.length
decreasing_by
  all_goals
    have hl := skipSpace_length cs
    rw [_hs, List.length_cons] at hl
  · have := Bracket.enter_length _he
    omega
  · omega

end

theorem skip_length (n : Nat) (nest : List Bracket) (cs rest : List Char) (hn : cs.length ≤ n) :
    (skipInside nest cs = .ok rest → rest.length ≤ cs.length) ∧
      (skipAfter nest cs = .ok rest → rest.length ≤ cs.length) := by
  induction n generalizing nest cs with
  | zero =>
    have : cs = [] := List.length_eq_zero_iff.1 (Nat.le_zero.1 hn)
    subst this
    refine ⟨fun h => ?_, fun h => ?_⟩
    · simp [skipInside, skipSpace] at h
    · cases nest <;> simp [skipAfter, skipSpace] at h
      simp [← h]
  | succ n ih =>
    have hl := skipSpace_length cs
    refine ⟨fun h => ?_, fun h => ?_⟩
    · rw [skipInside] at h
      split at h
      · simp at h
      · rename_i c r hs
        rw [hs, List.length_cons] at hl
        split at h
        · split at h
          · simp at h
          · rename_i ho
            have := Bracket.opened_length ho
            have := (ih _ _ (by omega)).2 h
            omega
          · rename_i ho
            have := Bracket.opened_length ho
            split at h
            · simp at h
            · rename_i he
              have := Bracket.enter_length he
              have := (ih _ _ (by omega)).1 h
              omega
        · split at h
          · simp at h
          · rename_i hv
            have := skipScalar_length hv
            rw [List.length_cons] at this
            have := (ih _ _ (by omega)).2 h
            omega
    · cases nest with
      | nil =>
        simp only [skipAfter, Except.ok.injEq] at h
        simp [← h]
      | cons b nest =>
        rw [skipAfter] at h
        split at h
        · simp at h
        · rename_i c r hs
          rw [hs, List.length_cons] at hl
          split at h
          · split at h
            · simp at h
            · rename_i he
              have := Bracket.enter_length he
              have := (ih _ _ (by omega)).1 h
              omega
          · split at h
            · have := (ih _ _ (by omega)).2 h
              omega
            · simp at h

def skipValue (cs : List Char) : Except Fault (List Char) :=
  skipInside [] cs

theorem skipValue_length {cs rest : List Char} (h : skipValue cs = .ok rest) :
    rest.length ≤ cs.length :=
  (skip_length _ _ _ _ (Nat.le_refl _)).1 h

end FirmwareUpdate.Json
