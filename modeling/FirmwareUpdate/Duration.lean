import FirmwareUpdate.Number.Fraction

/-! Durations as text and the expected duration of an update: the transfer at fifty kilobytes a
second and twenty seconds for checking, writing and restarting. -/

namespace FirmwareUpdate.Duration

open Number

def compact (x : Fraction) : String :=
  if x.atLeast 60 then
    let total := min x.rounded 0xFFFFFFFFFFFFFFFF
    s!"{total / 60}m {total % 60}s"
  else s!"{x.rounded}s"

def text (seconds : Float) : String :=
  compact ((magnitude? seconds).getD Binary.zero).fraction

def estimate (bytes : Nat) : Nat :=
  (Binary.nearest ((Binary.ofNat bytes).fraction.dividedBy (1024 * 50))).fraction.ceiling + 20

def counted (n : Nat) (word : String) : String :=
  if n = 1 then s!"{n} {word}" else s!"{n} {word}s"

def inWords (seconds : Nat) : String :=
  let m := seconds / 60
  let s := seconds % 60
  if 0 < m then counted m "minute" ++ " " ++ counted s "second" else counted s "second"

def estimateText (bytes : Nat) : String :=
  inWords (estimate bytes)

end FirmwareUpdate.Duration
