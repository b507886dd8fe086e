/-! Values written without white space. A text escapes the quote, the backslash and every control
character; all else stands for itself. -/

namespace FirmwareUpdate.Json

def escaped (c : Char) : List Char :=
  match c with
  | '"' => ['\\', '"']
  | '\\' => ['\\', '\\']
  | '\n' => ['\\', 'n']
  | '\r' => ['\\', 'r']
  | '\t' => ['\\', 't']
  | '\x08' => ['\\', 'b']
  | '\x0c' => ['\\', 'f']
  | c =>
      if c.toNat < 0x20 then
        ['\\', 'u', '0', '0', Nat.digitChar (c.toNat / 16), Nat.digitChar (c.toNat % 16)]
      else [c]

def writeText (s : String) : List Char :=
  '"' :: s.toList.flatMap escaped ++ ['"']

def writeNull : List Char := ['n', 'u', 'l', 'l']

def writeFlag : Bool → List Char
  | true => ['t', 'r', 'u', 'e']
  | false => ['f', 'a', 'l', 's', 'e']

def writeOptionalText : Option String → List Char
  | none => writeNull
  | some s => writeText s

def writeOptionalSize : Option UInt64 → List Char
  | none => writeNull
  | some n => Nat.toDigits 10 n.toNat

def writeMember (name : String) (value : List Char) : List Char :=
  writeText name ++ ':' :: value

def writeObject (members : List (List Char)) : List Char :=
  '{' :: (members.intersperse [',']).flatten ++ ['}']

end FirmwareUpdate.Json
