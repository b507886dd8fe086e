import FirmwareUpdate.Json.Fault

/-! Texts of a JSON document. Every reader takes the characters after the opening quote and gives
back those after the closing one. -/

namespace FirmwareUpdate.Json

open Text (octets)

def isSpace (c : Char) : Bool :=
  c == ' ' || c == '\n' || c == '\t' || c == '\r'

def skipSpace (cs : List Char) : List Char :=
  cs.dropWhile isSpace

theorem skipSpace_length (cs : List Char) : (skipSpace cs).length ≤ cs.length :=
  (List.dropWhile_suffix isSpace).length_le

def hexDigit? (c : Char) : Option Nat :=
  if '0' ≤ c ∧ c ≤ '9' then some (c.toNat - 48)
  else if 'a' ≤ c ∧ c ≤ 'f' then some (c.toNat - 87)
  else if 'A' ≤ c ∧ c ≤ 'F' then some (c.toNat - 55)
  else none

/-- Four hexadecimal digits. Anything else is refused four octets on, or at the end. -/
def quad (cs : List Char) : Except Fault (Nat × List Char) :=
  let refused : Except Fault (Nat × List Char) :=
    if octets cs < 4 then .error ⟨.endOfText, 0⟩ else .error ⟨.badEscape, octets cs - 4⟩
  match cs with
  | a :: b :: c :: d :: rest =>
      match hexDigit? a, hexDigit? b, hexDigit? c, hexDigit? d with
      | some a, some b, some c, some d => .ok (((a * 16 + b) * 16 + c) * 16 + d, rest)
      | _, _, _, _ => refused
  | _ => refused

theorem quad_length {cs rest : List Char} {n : Nat} (h : quad cs = .ok (n, rest)) :
    rest.length < cs.length := by
  unfold quad at h
  dsimp only at h
  split at h
  · split at h
    · simp only [Except.ok.injEq, Prod.mk.injEq] at h
      simp only [← h.2, List.length_cons]
      omega
    · split at h <;> simp at h
  · split at h <;> simp at h

def lowSurrogate (high : Nat) : List Char → Except Fault (Char × List Char)
  | [] => .error (behind [] .endOfText)
  | '\\' :: 'u' :: cs =>
      match quad cs with
      | .error f => .error f
      | .ok (low, rest) =>
          if 0xDC00 ≤ low ∧ low ≤ 0xDFFF then
            .ok (.ofNat ((high - 0xD800) * 0x400 + (low - 0xDC00) + 0x10000), rest)
          else .error (behind rest .loneSurrogate)
  | ['\\'] => .error (behind [] .endOfText)
  | '\\' :: c :: cs => .error (ahead (c :: cs) .brokenPair)
  | c :: cs => .error (ahead (c :: cs) .brokenPair)

def escape : List Char → Except Fault (Char × List Char)
  | [] => .error (behind [] .endOfText)
  | '"' :: cs => .ok ('"', cs)
  | '\\' :: cs => .ok ('\\', cs)
  | '/' :: cs => .ok ('/', cs)
  | 'b' :: cs => .ok ('\x08', cs)
  | 'f' :: cs => .ok ('\x0c', cs)
  | 'n' :: cs => .ok ('\n', cs)
  | 'r' :: cs => .ok ('\r', cs)
  | 't' :: cs => .ok ('\t', cs)
  | 'u' :: cs =>
      match quad cs with
      | .error f => .error f
      | .ok (n, rest) =>
          if 0xDC00 ≤ n ∧ n ≤ 0xDFFF then .error (behind rest .loneSurrogate)
          else if 0xD800 ≤ n ∧ n ≤ 0xDBFF then lowSurrogate n rest
          else .ok (.ofNat n, rest)
  | c :: cs => .error (ahead (c :: cs) .badEscape)

theorem lowSurrogate_length {high : Nat} {cs rest : List Char} {c : Char}
    (h : lowSurrogate high cs = .ok (c, rest)) : rest.length < cs.length := by
  unfold lowSurrogate at h
  split at h
  · simp at h
  · split at h
    · simp at h
    · rename_i hq
      have := quad_length hq
      split at h
      · simp only [Except.ok.injEq, Prod.mk.injEq] at h
        simp only [← h.2, List.length_cons]
        omega
      · simp at h
  all_goals simp at h

theorem escape_length {cs rest : List Char} {c : Char} (h : escape cs = .ok (c, rest)) :
    rest.length < cs.length := by
  unfold escape at h
  split at h
  case h_10 =>
    split at h
    · simp at h
    · rename_i hq
      have := quad_length hq
      split at h
      · simp at h
      · split at h
        · have := lowSurrogate_length h
          simp only [List.length_cons]
          omega
        · simp only [Except.ok.injEq, Prod.mk.injEq] at h
          simp only [← h.2, List.length_cons]
          omega
  all_goals first
    | (simp at h; done)
    | (simp only [Except.ok.injEq, Prod.mk.injEq] at h; simp [← h.2])

def readText (cs : List Char) : Except Fault (List Char × List Char) :=
  match cs with
  | [] => .error (behind [] .endOfText)
  | '"' :: cs => .ok ([], cs)
  | '\\' :: cs =>
      match _ : escape cs with
      | .error f => .error f
      | .ok (c, rest) => (readText rest).map fun (t, r) => (c :: t, r)
  | c :: cs =>
      if c.toNat < 0x20 then .error (behind cs .controlCharacter)
      else (readText cs).map fun (t, r) => (c :: t, r)
termination_by cs.length
decreasing_by
  · have := escape_length ‹_›
    simp only [List.length_cons]
    omega
  · simp

def skipEscape : List Char → Except Fault (List Char)
  | [] => .error (behind [] .endOfText)
  | 'u' :: cs =>
      match quad cs with
      | .error f => .error f
      | .ok (_, rest) => .ok rest
  | c :: cs =>
      if c ∈ ['"', '\\', '/', 'b', 'f', 'n', 'r', 't'] then .ok cs
      else .error (ahead (c :: cs) .badEscape)

theorem skipEscape_length {cs rest : List Char} (h : skipEscape cs = .ok rest) :
    rest.length < cs.length := by
  unfold skipEscape at h
  split at h
  · simp at h
  · split at h
    · simp at h
    · rename_i hq
      have := quad_length hq
      simp only [Except.ok.injEq] at h
      simp only [← h, List.length_cons]
      omega
  · split at h
    · simp only [Except.ok.injEq] at h
      simp [← h]
    · simp at h

/-- Passes over a text that is not needed: a control character is refused before it is read, and
surrogates need no partner. -/
def skipText (cs : List Char) : Except Fault (List Char) :=
  match cs with
  | [] => .error (behind [] .endOfText)
  | '"' :: cs => .ok cs
  | '\\' :: cs =>
      match _ : skipEscape cs with
      | .error f => .error f
      | .ok rest => skipText rest
  | c :: cs =>
      if c.toNat < 0x20 then .error (behind (c :: cs) .controlCharacter)
      else skipText cs
termination_by cs.length
decreasing_by
  · have := skipEscape_length ‹_›
    simp only [List.length_cons]
    omega
  · simp

theorem readText_length {cs t rest : List Char} (h : readText cs = .ok (t, rest)) :
    rest.length < cs.length := by
  fun_induction readText cs generalizing t rest with
  | case1 => simp at h
  | case2 => simp only [Except.ok.injEq, Prod.mk.injEq] at h; simp [← h.2]
  | case3 => simp at h
  | case4 cs c r he ih =>
    have := escape_length he
    cases hr : readText r with
    | error => simp [hr, Except.map] at h
    | ok p =>
      have := ih hr
      simp only [hr, Except.map, Except.ok.injEq, Prod.mk.injEq] at h
      simp only [← h.2, List.length_cons]
      omega
  | case5 => simp at h
  | case6 c cs _ _ _ ih =>
    cases hr : readText cs with
    | error => simp [hr, Except.map] at h
    | ok p =>
      have := ih hr
      simp only [hr, Except.map, Except.ok.injEq, Prod.mk.injEq] at h
      simp only [← h.2, List.length_cons]
      omega

theorem skipText_length {cs rest : List Char} (h : skipText cs = .ok rest) :
    rest.length < cs.length := by
  fun_induction skipText cs with
  | case1 => simp at h
  | case2 => simp only [Except.ok.injEq] at h; simp [← h]
  | case3 => simp at h
  | case4 cs r he ih =>
    have := skipEscape_length he
    have := ih h
    simp only [List.length_cons]
    omega
  | case5 => simp at h
  | case6 c cs _ _ _ ih =>
    have := ih h
    simp only [List.length_cons]
    omega

end FirmwareUpdate.Json
