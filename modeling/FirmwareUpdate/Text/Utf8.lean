/-! Text as octets and octets as text. `Utf8.next` takes one character off the front, or the
longest front part that could have begun one; `decode` refuses the latter and `decodeLossy` writes
U+FFFD for it. -/

namespace FirmwareUpdate.Text

def octets : List Char → Nat
  | [] => 0
  | c :: cs => c.utf8Size + octets cs

namespace Utf8

/-- What a first octet promises: the number of octets after it, its own bits, and the least and the
greatest octet that may come second. -/
def lead (b : UInt8) : Option (Nat × Nat × UInt8 × UInt8) :=
  if b < 0x80 then some (0, b.toNat, 0, 0)
  else if 0xC2 ≤ b && b ≤ 0xDF then some (1, b.toNat - 0xC0, 0x80, 0xBF)
  else if b == 0xE0 then some (2, 0, 0xA0, 0xBF)
  else if b == 0xED then some (2, 0xD, 0x80, 0x9F)
  else if 0xE1 ≤ b && b ≤ 0xEF then some (2, b.toNat - 0xE0, 0x80, 0xBF)
  else if b == 0xF0 then some (3, 0, 0x90, 0xBF)
  else if b == 0xF4 then some (3, 4, 0x80, 0x8F)
  else if 0xF1 ≤ b && b ≤ 0xF3 then some (3, b.toNat - 0xF0, 0x80, 0xBF)
  else none

def more : (n code : Nat) → (low high : UInt8) → List UInt8 → Option Char × List UInt8
  | 0, code, _, _, bs => (some (Char.ofNat code), bs)
  | _ + 1, _, _, _, [] => (none, [])
  | n + 1, code, low, high, b :: bs =>
      if low ≤ b && b ≤ high then more n (code * 64 + (b.toNat - 0x80)) 0x80 0xBF bs
      else (none, b :: bs)

theorem more_length_le (n code : Nat) (low high : UInt8) (bs : List UInt8) :
    (more n code low high bs).2.length ≤ bs.length := by
  induction n generalizing code low high bs with
  | zero => simp [more]
  | succ n ih =>
    cases bs with
    | nil => simp [more]
    | cons b bs =>
      simp only [more]
      split
      · exact Nat.le_succ_of_le (ih _ _ _ _)
      · simp

def next (b : UInt8) (bs : List UInt8) : Option Char × List UInt8 :=
  match lead b with
  | some (n, code, low, high) => more n code low high bs
  | none => (none, bs)

theorem next_length_le (b : UInt8) (bs : List UInt8) : (next b bs).2.length ≤ bs.length := by
  rw [next]
  split
  · exact more_length_le _ _ _ _ _
  · exact Nat.le_refl _

def characters : List UInt8 → List (Option Char)
  | [] => []
  | b :: bs => (next b bs).1 :: characters (next b bs).2
termination_by bs => bs.length
decreasing_by exact Nat.lt_succ_of_le (next_length_le b bs)

def decode (bs : List UInt8) : Option (List Char) :=
  (characters bs).mapM id

def decodeLossy (bs : List UInt8) : List Char :=
  (characters bs).map (·.getD '\uFFFD')

end Utf8

end FirmwareUpdate.Text
