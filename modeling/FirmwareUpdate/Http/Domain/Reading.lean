import FirmwareUpdate.Http.Domain.Table
import FirmwareUpdate.Text.Table

/-! How a character reads in a domain: a capital as its small letter, a variant of a character or of
several as those, and what does not show as nothing. -/

namespace FirmwareUpdate.Http.Domain

structure Shift where
  first : Nat
  last : Nat
  step : Nat
  image : Nat

def Shift.ofEntry? : List Nat → Option Shift
  | [first, last, step, image] => some ⟨first, last, step, image⟩
  | _ => none

def Shift.reading? (s : Shift) (n : Nat) : Option Nat :=
  if s.first ≤ n ∧ n ≤ s.last ∧ (n - s.first) % s.step = 0 then some (s.image + (n - s.first))
  else none

def shifts : List Shift := (Text.entries shifted).filterMap Shift.ofEntry?

def spellings : List (Char × List Char) := Text.readings spelled

def reading? (c : Char) : Option (List Char) :=
  if c.toNat < 0x80 then some [c.toLower]
  else if Text.within ignored c then some []
  else
    match shifts.findSome? (·.reading? c.toNat) with
    | some n => some [Char.ofNat n]
    | none => (spellings.lookup c).or (if Text.within known c then some [c] else none)

def isPlain (c : Char) : Bool := reading? c == some [c]

end FirmwareUpdate.Http.Domain
