import FirmwareUpdate.Json.Fault
import FirmwareUpdate.Number.Shortest

/-! Numbers of a JSON document. A whole number that fits 64 bits stays whole; any other is a
binary64 number, computed from the digits that fit 64 bits and a power of ten. -/

namespace FirmwareUpdate.Json

open FirmwareUpdate.Number

inductive Numeral
  | natural (n : Nat)
  | negative (n : Nat)
  | real (minus : Bool) (b : Binary)

def greatestWord : Nat := 0xFFFFFFFFFFFFFFFF

def greatestExponent : Nat := 0x7FFFFFFF

def digitValue (c : Char) : Nat := c.toNat - 48

def skipDigits (cs : List Char) : List Char :=
  cs.dropWhile Char.isDigit

def wholeDigits (n : Nat) : List Char → Nat × Nat × List Char
  | [] => (n, 0, [])
  | c :: cs =>
      if c.isDigit then
        if n * 10 + digitValue c ≤ greatestWord then wholeDigits (n * 10 + digitValue c) cs
        else (n, ((c :: cs).takeWhile Char.isDigit).length, skipDigits (c :: cs))
      else (n, 0, c :: cs)

def decimalDigits (n places : Nat) : List Char → Nat × Nat × List Char
  | [] => (n, places, [])
  | c :: cs =>
      if c.isDigit then
        if n * 10 + digitValue c ≤ greatestWord then
          decimalDigits (n * 10 + digitValue c) (places + 1) cs
        else (n, places, skipDigits (c :: cs))
      else (n, places, c :: cs)

def exponentDigits (n : Nat) : List Char → Option Nat × List Char
  | [] => (some n, [])
  | c :: cs =>
      if c.isDigit then
        if n * 10 + digitValue c ≤ greatestExponent then exponentDigits (n * 10 + digitValue c) cs
        else (none, cs)
      else (some n, c :: cs)

def greatestPower : Nat := 308

def powerOfTen (n : Nat) : Binary := .ofNat (Nat.pow 10 n)

def scaleDown (b : Binary) (n : Nat) : Binary :=
  if n ≤ greatestPower then b.dividedBy (powerOfTen n)
  else if b.mantissa = 0 then b
  else scaleDown (b.dividedBy (powerOfTen greatestPower)) (n - greatestPower)
termination_by n
decreasing_by simp only [greatestPower] at *; omega

def real? (n : Nat) : Int → Option Binary
  | .ofNat e =>
      if e ≤ greatestPower then
        let b := (Binary.ofNat n).times (powerOfTen e)
        if b.isFinite then some b else none
      else if n = 0 then some .zero
      else none
  | .negSucc e => some (scaleDown (.ofNat n) (e + 1))

def finishReal (minus : Bool) (n : Nat) (e : Int) (rest : List Char) :
    Except Fault (Numeral × List Char) :=
  match real? n e with
  | some b => .ok (.real minus b, rest)
  | none => .error (behind rest .numberOutOfRange)

def readSign : List Char → Bool × List Char
  | '+' :: cs => (false, cs)
  | '-' :: cs => (true, cs)
  | cs => (false, cs)

def readPower (minus : Bool) (n : Nat) (e : Int) (down : Bool) :
    List Char → Except Fault (Numeral × List Char)
  | [] => .error (behind [] .endOfValue)
  | c :: cs =>
      if c.isDigit then
        match exponentDigits (digitValue c) cs with
        | (some k, rest) => finishReal minus n (if down then e - k else e + k) rest
        | (none, rest) =>
            if n ≠ 0 ∧ !down then .error (behind rest .numberOutOfRange)
            else .ok (.real minus .zero, skipDigits rest)
      else .error (ahead (c :: cs) .badNumber)

def readExponent (minus : Bool) (n : Nat) (e : Int) (cs : List Char) :
    Except Fault (Numeral × List Char) :=
  readPower minus n e (readSign cs).1 (readSign cs).2

def readMark (minus : Bool) (n : Nat) (e : Int) : List Char → Except Fault (Numeral × List Char)
  | 'e' :: cs => readExponent minus n e cs
  | 'E' :: cs => readExponent minus n e cs
  | cs => finishReal minus n e cs

def readDecimals (minus : Bool) (n : Nat) (e : Int) (cs : List Char) :
    Except Fault (Numeral × List Char) :=
  match cs with
  | [] => .error (ahead [] .endOfValue)
  | c :: _ =>
      if c.isDigit then
        match decimalDigits n 0 cs with
        | (m, places, rest) => readMark minus m (e - places) rest
      else .error (ahead cs .badNumber)

def finishNumber (minus : Bool) (n dropped : Nat) : List Char → Except Fault (Numeral × List Char)
  | '.' :: cs => readDecimals minus n dropped cs
  | 'e' :: cs => readExponent minus n dropped cs
  | 'E' :: cs => readExponent minus n dropped cs
  | cs =>
      if 0 < dropped then finishReal minus n dropped cs
      else if !minus then .ok (.natural n, cs)
      else if 0 < n ∧ n ≤ 0x8000000000000000 then .ok (.negative n, cs)
      else .ok (.real true (.ofNat n), cs)

def readNumber (minus : Bool) : List Char → Except Fault (Numeral × List Char)
  | [] => .error (behind [] .endOfValue)
  | '0' :: cs =>
      match cs with
      | c :: _ => if c.isDigit then .error (ahead cs .badNumber) else finishNumber minus 0 0 cs
      | [] => finishNumber minus 0 0 []
  | c :: cs =>
      if c.isDigit then
        match wholeDigits (digitValue c) cs with
        | (n, dropped, rest) => finishNumber minus n dropped rest
      else .error (ahead (c :: cs) .badNumber)

def skipPower : List Char → Except Fault (List Char)
  | [] => .error (behind [] .badNumber)
  | c :: cs => if c.isDigit then .ok (skipDigits cs) else .error (ahead (c :: cs) .badNumber)

def skipExponent (cs : List Char) : Except Fault (List Char) :=
  skipPower (readSign cs).2

def skipMark : List Char → Except Fault (List Char)
  | 'e' :: cs => skipExponent cs
  | 'E' :: cs => skipExponent cs
  | cs => .ok cs

def skipFraction : List Char → Except Fault (List Char)
  | '.' :: cs =>
      match cs with
      | c :: _ => if c.isDigit then skipMark (skipDigits cs) else .error (ahead cs .badNumber)
      | [] => .error (ahead [] .badNumber)
  | cs => skipMark cs

def skipNumber : List Char → Except Fault (List Char)
  | [] => .error (behind [] .badNumber)
  | '0' :: cs =>
      match cs with
      | c :: _ => if c.isDigit then .error (ahead cs .badNumber) else skipFraction cs
      | [] => skipFraction []
  | c :: cs =>
      if c.isDigit then skipFraction (skipDigits cs) else .error (ahead (c :: cs) .badNumber)

def floatText (minus : Bool) (b : Binary) : String :=
  let d := b.shortest
  let sign := if minus then ['-'] else []
  let zeros (n : Nat) := List.replicate n '0'
  let body : List Char :=
    if -5 ≤ d.exponent ∧ d.exponent < 0 then
      '0' :: '.' :: zeros (-d.exponent - 1).toNat ++ d.digits
    else if 0 ≤ d.exponent ∧ d.exponent ≤ 15 then
      let n := d.exponent.toNat + 1
      let whole := d.digits.take n ++ zeros (n - d.digits.length)
      let rest := d.digits.drop n
      whole ++ '.' :: (if rest.isEmpty then ['0'] else rest)
    else
      let rest := d.digits.drop 1
      d.digits.take 1 ++ (if rest.isEmpty then [] else '.' :: rest) ++
        ['e', if d.exponent < 0 then '-' else '+'] ++ Nat.toDigits 10 d.exponent.natAbs
  String.ofList (sign ++ body)

end FirmwareUpdate.Json
