/-! Sets of code points and tables over them. A set is given by its ascending boundaries: a code
point belongs to it when the number of boundaries at or below it is odd. A table is kept as lines of
text: the entries of a line have blanks between them, and the hexadecimal numbers of an entry have
dots. -/

namespace FirmwareUpdate.Text

def within (boundaries : List Nat) (c : Char) : Bool :=
  boundaries.countP (· ≤ c.toNat) % 2 == 1

def parts (sep : Char) : List Char → List (List Char)
  | [] => [[]]
  | c :: cs =>
      if c = sep then [] :: parts sep cs
      else
        match parts sep cs with
        | [] => [[c]]
        | p :: ps => (c :: p) :: ps

def hexValue? (c : Char) : Option Nat :=
  let n := c.toLower.toNat
  if c.isDigit then some (n - 48) else if 97 ≤ n ∧ n ≤ 102 then some (n - 87) else none

def entry (cs : List Char) : List Nat :=
  (parts '.' cs).map fun p => p.foldl (fun n c => n * 16 + (hexValue? c).getD 0) 0

def entries (lines : List String) : List (List Nat) :=
  lines.flatMap fun line => (parts ' ' line.toList).map entry

def readings (lines : List String) : List (Char × List Char) :=
  (entries lines).filterMap fun
    | [] => none
    | n :: ns => some (Char.ofNat n, ns.map Char.ofNat)

end FirmwareUpdate.Text
