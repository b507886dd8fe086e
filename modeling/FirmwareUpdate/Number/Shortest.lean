import FirmwareUpdate.Number.Fraction

/-! The shortest decimal that reads back as a given binary64 number: of the decimals with the fewest
digits inside the interval of reals that round to the number, the nearest to it. -/

namespace FirmwareUpdate.Number

structure Decimal where
  digits : List Char
  exponent : Int

/-- The reals that round to a number; the ends belong to it when `closed`. -/
structure Interval where
  low : Fraction
  high : Fraction
  closed : Bool

namespace Fraction

def scale (x : Fraction) : Int → Fraction
  | .ofNat n => x.times (Nat.pow 10 n)
  | .negSucc n => x.dividedBy (Nat.pow 10 (n + 1))

def less (x y : Fraction) : Bool := x.num * y.den < y.num * x.den

def distance (x : Fraction) (n : Nat) : Fraction :=
  let y := n * x.den
  ⟨(x.num - y) + (y - x.num), x.den⟩

end Fraction

def Binary.interval (b : Binary) : Interval where
  low :=
    if b.mantissa = Binary.leastNormal ∧ -1074 < b.exponent then
      (Fraction.ofNat (4 * b.mantissa - 1)).shift (2 - b.exponent)
    else (Fraction.ofNat (2 * b.mantissa - 1)).shift (1 - b.exponent)
  high := (Fraction.ofNat (2 * b.mantissa + 1)).shift (1 - b.exponent)
  closed := b.mantissa % 2 == 0

def Interval.contains (i : Interval) (x : Fraction) : Bool :=
  if i.closed then !x.less i.low && !i.high.less x else i.low.less x && x.less i.high

def Fraction.decade (x : Fraction) : Int :=
  let k : Int := ((Nat.toDigits 10 x.num).length : Int) - (Nat.toDigits 10 x.den).length
  if (x.scale (-k)).atLeast 1 then k else k - 1

def nearestOnGrid (x : Fraction) (i : Interval) (grid : Int) : Option Nat :=
  let y := x.scale (-grid)
  let low := y.num / y.den
  let value (n : Nat) := (Fraction.ofNat n).scale grid
  match i.contains (value low), i.contains (value (low + 1)) with
  | true, true =>
      let below := y.distance low
      let above := y.distance (low + 1)
      if below.less above then some low
      else if above.less below then some (low + 1)
      else some (low + low % 2)
  | true, false => some low
  | false, true => some (low + 1)
  | false, false => none

def Binary.shortest (b : Binary) : Decimal :=
  if b.mantissa = 0 then ⟨['0'], 0⟩
  else
    let x := b.fraction
    let k := x.decade
    let found := (List.range 17).findSome? fun (n : Nat) =>
      (nearestOnGrid x b.interval (k - n)).map fun (m : Nat) => (m, k - (n : Int))
    let (m, grid) := found.getD (0, 0)
    let ds := Nat.toDigits 10 m
    ⟨(ds.reverse.dropWhile (· == '0')).reverse, grid + (ds.length : Int) - 1⟩

end FirmwareUpdate.Number
