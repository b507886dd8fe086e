import FirmwareUpdate.Text.Canonical.Table
import FirmwareUpdate.Text.Table

/-! The canonical composed form of a text: every character is taken apart, the marks after a
character are put into the order of their combining classes, and what can be put together is put
together again, so that texts that look the same are the same. -/

namespace FirmwareUpdate.Text.Canonical

def compositeParts : List (Char × List Char) := readings composites

def separableParts : List (Char × List Char) := readings separable

def classSpans : List (List Nat) := entries classes

def combiningClass (c : Char) : Nat :=
  let holds : List Nat → Bool
    | [_, first, last] => first ≤ c.toNat && c.toNat ≤ last
    | _ => false
  if c.toNat < 0x300 then 0 else ((classSpans.find? holds).bind List.head?).getD 0

def isSyllable (n : Nat) : Bool := 0xAC00 ≤ n && n < 0xAC00 + 19 * 21 * 28

def syllableParts (n : Nat) : List Char :=
  let i := n - 0xAC00
  let front := [Char.ofNat (0x1100 + i / 588), Char.ofNat (0x1161 + i / 28 % 21)]
  if i % 28 = 0 then front else front ++ [Char.ofNat (0x11A7 + i % 28)]

def syllable? (a b : Nat) : Option Char :=
  if 0x1100 ≤ a ∧ a < 0x1100 + 19 ∧ 0x1161 ≤ b ∧ b < 0x1161 + 21 then
    some (Char.ofNat (0xAC00 + ((a - 0x1100) * 21 + (b - 0x1161)) * 28))
  else if isSyllable a ∧ (a - 0xAC00) % 28 = 0 ∧ 0x11A7 < b ∧ b < 0x11A7 + 28 then
    some (Char.ofNat (a + (b - 0x11A7)))
  else none

def decompose (c : Char) : List Char :=
  if c.toNat < 0xC0 then [c]
  else if isSyllable c.toNat then syllableParts c.toNat
  else ((compositeParts.lookup c).or (separableParts.lookup c)).getD [c]

def compose? (a b : Char) : Option Char :=
  if b.toNat < 0x300 then none
  else
    let whole := decompose a ++ [b]
    (syllable? a.toNat b.toNat).or ((compositeParts.find? (·.2 == whole)).map (·.1))

def place (c : Char) : List Char → List Char
  | [] => [c]
  | d :: ds =>
      if 0 < combiningClass d ∧ combiningClass d < combiningClass c then d :: place c ds
      else c :: d :: ds

def arrange : List Char → List Char
  | [] => []
  | c :: cs => place c (arrange cs)

/-- Puts together what follows a character of class zero. `held` are the marks after it that stay,
and `last` is the class of the last one: no mark gets past one of its own class or of a greater. -/
def composeAfter (base : Char) (held : List Char) (last : Nat) : List Char → List Char
  | [] => base :: held
  | c :: cs =>
      let k := combiningClass c
      match if held = [] ∨ last < k then compose? base c else none with
      | some whole => composeAfter whole held last cs
      | none =>
          if k = 0 then base :: held ++ composeAfter c [] 0 cs
          else composeAfter base (held ++ [c]) k cs

def composeAll : List Char → List Char
  | [] => []
  | c :: cs => if combiningClass c = 0 then composeAfter c [] 0 cs else c :: composeAll cs

def form (cs : List Char) : List Char :=
  composeAll (arrange (cs.flatMap decompose))

end FirmwareUpdate.Text.Canonical
