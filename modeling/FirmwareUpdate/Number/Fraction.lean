/-! Exact fractions of natural numbers and binary64 numbers without their sign. A binary64 number is
`mantissa * 2 ^ exponent`; `Binary.nearest` rounds a fraction to one, a tie to the even mantissa. -/

namespace FirmwareUpdate.Number

def halfEven (num den : Nat) : Nat :=
  let q := num / den
  let r := 2 * (num % den)
  if r < den then q else if den < r then q + 1 else q + q % 2

def halfUp (num den : Nat) : Nat :=
  (2 * num + den) / (2 * den)

structure Fraction where
  num : Nat
  den : Nat

namespace Fraction

def ofNat (n : Nat) : Fraction := ⟨n, 1⟩

def times (x : Fraction) (n : Nat) : Fraction := ⟨x.num * n, x.den⟩

def dividedBy (x : Fraction) (n : Nat) : Fraction := ⟨x.num, x.den * n⟩

def atLeast (x : Fraction) (n : Nat) : Bool := n * x.den ≤ x.num

def rounded (x : Fraction) : Nat := halfUp x.num x.den

def ceiling (x : Fraction) : Nat := (x.num + x.den - 1) / x.den

def shift (x : Fraction) : Int → Fraction
  | .ofNat n => x.dividedBy (Nat.pow 2 n)
  | .negSucc n => x.times (Nat.pow 2 (n + 1))

def magnitude (x : Fraction) : Int :=
  let k := (x.num.log2 : Int) - (x.den.log2 : Int)
  if (x.shift k).atLeast 1 then k else k - 1

end Fraction

structure Binary where
  mantissa : Nat
  exponent : Int

namespace Binary

def zero : Binary := ⟨0, -1074⟩

def leastNormal : Nat := 0x10000000000000

def signBit : Nat := 0x8000000000000000

def fraction (b : Binary) : Fraction :=
  (Fraction.ofNat b.mantissa).shift (-b.exponent)

def isFinite (b : Binary) : Bool :=
  b.exponent ≤ 971

def nearest (x : Fraction) : Binary :=
  if x.num = 0 then zero
  else
    let e := max (x.magnitude - 52) (-1074)
    let y := x.shift e
    let m := halfEven y.num y.den
    if m = 2 * leastNormal then ⟨leastNormal, e + 1⟩ else ⟨m, e⟩

def ofNat (n : Nat) : Binary :=
  nearest (.ofNat n)

def times (a b : Binary) : Binary :=
  nearest ⟨a.fraction.num * b.fraction.num, a.fraction.den * b.fraction.den⟩

def dividedBy (a b : Binary) : Binary :=
  nearest ⟨a.fraction.num * b.fraction.den, a.fraction.den * b.fraction.num⟩

def ofBits (bits : UInt64) : Option Binary :=
  let n := bits.toNat % signBit
  let e := n / leastNormal
  let f := n % leastNormal
  if e = 2047 then none
  else if e = 0 then some ⟨f, -1074⟩
  else some ⟨f + leastNormal, Int.ofNat e - 1075⟩

end Binary

def magnitude? (x : Float) : Option Binary :=
  if x.toBits.toNat < Binary.signBit then Binary.ofBits x.toBits else none

end FirmwareUpdate.Number
