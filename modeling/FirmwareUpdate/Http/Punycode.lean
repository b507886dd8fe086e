/-! Punycode: a label with characters beyond ASCII in ASCII. The basic characters come first; every
other one is an insertion, taken by code point and position, and the insertions are numbered. What
is written is how far each is from the one before, in digits whose weights adapt to the label.
Reading makes the insertions one after the other. -/

namespace FirmwareUpdate.Http.Punycode

def digit (n : Nat) : Char :=
  if n < 26 then Char.ofNat (97 + n) else Char.ofNat (22 + n)

def threshold (bias place : Nat) : Nat :=
  min 26 (max 1 (place - bias))

theorem threshold_pos (bias place : Nat) : 1 ≤ threshold bias place := by
  rw [threshold]
  omega

def digits (bias place n : Nat) : List Char :=
  let t := threshold bias place
  if n < t then [digit n]
  else digit (t + (n - t) % (36 - t)) :: digits bias (place + 36) ((n - t) / (36 - t))
termination_by n
decreasing_by
  have := threshold_pos bias place
  exact Nat.lt_of_le_of_lt (Nat.div_le_self _ _) (by omega)

def scaleDown (delta bias : Nat) : Nat :=
  if 455 < delta then scaleDown (delta / 35) (bias + 36) else bias + 36 * delta / (delta + 38)
termination_by delta
decreasing_by omega

def adapt (delta count : Nat) (first : Bool) : Nat :=
  let d := if first then delta / 700 else delta / 2
  scaleDown (d + d / count) 0

/-- What is written, how far the insertion to come is from the last one, the bias of its digits, and
the number of characters that are in place. -/
structure State where
  written : List Char
  delta : Nat
  bias : Nat
  placed : Nat

def step (basic m : Nat) (s : State) (c : Char) : State :=
  if c.toNat < m then { s with delta := s.delta + 1 }
  else if c.toNat = m then
    { written := s.written ++ digits s.bias 36 s.delta
      delta := 0
      bias := adapt s.delta (s.placed + 1) (s.placed == basic)
      placed := s.placed + 1 }
  else s

def insertAll (label : List Char) (basic : Nat) : (next : Nat) → State → List Nat → State
  | _, s, [] => s
  | next, s, m :: ms =>
      let s := { s with delta := s.delta + (m - next) * (s.placed + 1) }
      let s := label.foldl (step basic m) s
      insertAll label basic (m + 1) { s with delta := s.delta + 1 } ms

def isBasic (c : Char) : Bool := c.toNat < 128

def codePoints (label : List Char) : List Nat :=
  ((label.filter (!isBasic ·)).map Char.toNat).eraseDups.mergeSort

def encode (label : List Char) : List Char :=
  let basic := label.filter isBasic
  let s := insertAll label basic.length 128 ⟨[], 0, 72, basic.length⟩ (codePoints label)
  (if basic = [] then [] else basic ++ ['-']) ++ s.written

def digitValue? (c : Char) : Option Nat :=
  if 'a' ≤ c ∧ c ≤ 'z' then some (c.toNat - 97)
  else if '0' ≤ c ∧ c ≤ '9' then some (c.toNat - 22)
  else none

def readNumber (bias place weight n : Nat) : List Char → Option (Nat × List Char)
  | [] => none
  | c :: cs =>
      match digitValue? c with
      | none => none
      | some d =>
          if d < threshold bias place then some (n + d * weight, cs)
          else
            readNumber bias (place + 36) (weight * (36 - threshold bias place)) (n + d * weight) cs

theorem readNumber_length_lt {bias place weight n m : Nat} {cs rest : List Char}
    (h : readNumber bias place weight n cs = some (m, rest)) : rest.length < cs.length := by
  induction cs generalizing place weight n with
  | nil => simp [readNumber] at h
  | cons c cs ih =>
    simp only [readNumber] at h
    split at h
    · simp at h
    · split at h
      · simp only [Option.some.injEq, Prod.mk.injEq] at h
        simp [h.2]
      · exact Nat.lt_succ_of_lt (ih h)

def insertWritten (bias code place : Nat) (label : List Char) (cs : List Char) :
    Option (List Char) :=
  match cs with
  | [] => some label
  | c :: rest =>
      match _ : readNumber bias 36 1 place (c :: rest) with
      | none => none
      | some (n, later) =>
          let count := label.length + 1
          let code' := code + n / count
          if code'.isValidChar then
            insertWritten (adapt (n - place) count (place == 0)) code' (n % count + 1)
              (label.insertIdx (n % count) (Char.ofNat code')) later
          else none
termination_by cs.length
decreasing_by exact readNumber_length_lt (by assumption)

def splitLast (cs : List Char) : Option (List Char × List Char) :=
  match cs.reverse.dropWhile (· != '-') with
  | [] => some ([], cs)
  | [_] => none
  | _ :: front => some (front.reverse, (cs.reverse.takeWhile (· != '-')).reverse)

def decode (cs : List Char) : Option (List Char) :=
  if cs.all isBasic then
    (splitLast cs).bind fun (label, insertions) => insertWritten 72 128 0 label insertions
  else none

end FirmwareUpdate.Http.Punycode
