import FirmwareUpdate.Number.Fraction
import FirmwareUpdate.Text.Blank

/-! Sizes and transfer rates as text. A size is divided by 1024 while it is at least that and a
larger unit is left, and written with at most two decimals and no zero that carries nothing. -/

namespace FirmwareUpdate.Size

open Number Text

def units : List String := ["B", "KB", "MB", "GB"]

def inUnit (x : Fraction) : List String → Fraction × String
  | [] => (x, "")
  | [u] => (x, u)
  | u :: us => if x.atLeast 1024 then inUnit (x.dividedBy 1024) us else (x, u)

/-- The hundredths that are written: rounded once, a half up, and then as the binary number nearest
to that many hundredths is. -/
def hundredths (x : Fraction) : Nat :=
  let n := (Binary.nearest (x.times 100)).fraction.rounded
  let y := ((Binary.nearest ⟨n, 100⟩).fraction).times 100
  halfEven y.num y.den

def twoDecimals (n : Nat) : List Char :=
  Nat.toDigits 10 (n / 100) ++ ['.', Nat.digitChar (n / 10 % 10), Nat.digitChar (n % 10)]

def numeral (n : Nat) : List Char :=
  trimEnd (· == '.') (trimEnd (· == '0') (twoDecimals n))

def scaled (b : Binary) : String :=
  if b.mantissa = 0 then "0 B"
  else
    let (x, unit) := inUnit b.fraction units
    String.ofList (numeral (hundredths x)) ++ " " ++ unit

def text (bytes : Nat) : String :=
  scaled (Binary.ofNat bytes)

def rateText (bytesPerSecond : Float) : String :=
  scaled ((magnitude? bytesPerSecond).getD Binary.zero) ++ "/s"

end FirmwareUpdate.Size
