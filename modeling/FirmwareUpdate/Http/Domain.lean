import FirmwareUpdate.Http.Domain.Joiner
import FirmwareUpdate.Http.Domain.Reading
import FirmwareUpdate.Http.Punycode
import FirmwareUpdate.Text.Mark

/-! Domains in ASCII. A domain is read character by character and brought into its canonical form; a
label beyond ASCII is then written in Punycode. Labels that come written so have to be the written
form of a label that could have been read. -/

namespace FirmwareUpdate.Http.Domain

structure Label where
  read : List Char
  written : List Char

def sign : List Char := ['x', 'n', '-', '-']

def greatestRead : Nat := 1000

def greatestWritten : Nat := 2000

def isAscii (cs : List Char) : Bool := cs.all Punycode.isBasic

def isSettled (cs : List Char) : Bool :=
  cs.all (fun c => isPlain c && c != '.') && Text.Canonical.form cs == cs

def ofWritten? (cs : List Char) : Option Label :=
  let rest := cs.drop sign.length
  if rest.length ≤ greatestWritten ∧ rest ≠ [] ∧ rest.getLast? ≠ some '-' then
    ((Punycode.decode rest).filter isSettled).map fun (read : List Char) => ⟨read, cs⟩
  else none

def ofRead (cs : List Char) : Label :=
  ⟨cs, if isAscii cs then cs else sign ++ Punycode.encode cs⟩

def label? (cs : List Char) : Option Label :=
  if sign.isPrefixOf cs then ofWritten? cs else some (ofRead cs)

def isForbidden (c : Char) : Bool :=
  c.toNat ≤ 0x20 || c == '\x7F' || "%#/:<>?@[\\]^|".toList.contains c

def Label.isSound (l : Label) : Bool :=
  l.read.all (!isForbidden ·) && !l.read.head?.any Text.isMark && joinersFit [] l.read &&
    (isAscii l.read || l.read.length ≤ greatestRead)

def Label.turns (l : Label) : Bool := l.read.any fun c => (direction c).turns

def areClear (labels : List Label) : Bool :=
  labels.all (!·.turns) || labels.all (hasClearDirection ·.read)

def labels? (cs : List Char) : Option (List Label) :=
  (cs.mapM reading?).bind fun (readings : List (List Char)) =>
    (Text.parts '.' (Text.Canonical.form readings.flatten)).mapM label?

def toAscii? (cs : List Char) : Option (List Char) :=
  match labels? cs with
  | none => none
  | some labels =>
      if labels.all Label.isSound && areClear labels then
        some (['.'].intercalate (labels.map (·.written)))
      else none

end FirmwareUpdate.Http.Domain
