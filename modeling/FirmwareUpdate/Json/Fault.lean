import FirmwareUpdate.Text.Quoted
import FirmwareUpdate.Text.Utf8

/-! Why a JSON text is refused, and where. A fault carries the number of octets that were left to
read when it arose; its message counts lines and the octets of a line. -/

namespace FirmwareUpdate.Json

open Text (octets)

inductive Found
  | null
  | boolean (b : Bool)
  | integer (n : Int)
  | float (written : String)
  | text (s : String)
  | sequence
  | map

inductive Cause
  | endOfValue
  | endOfObject
  | endOfList
  | endOfText
  | expectedValue
  | expectedIdentifier
  | expectedColon
  | expectedMember
  | expectedElement
  | keyNotText
  | trailingComma
  | trailingCharacters
  | badNumber
  | numberOutOfRange
  | badEscape
  | brokenPair
  | loneSurrogate
  | controlCharacter
  | missing (field : String)
  | duplicate (field : String)
  | tooShort (length : Nat) (record : String) (size : Nat)
  | wrongType (found : Found) (expected : String)
  | wrongValue (found : Found) (expected : String)

def Found.message : Found → String
  | .null => "null"
  | .boolean b => s!"boolean `{b}`"
  | .integer n => s!"integer `{n}`"
  | .float t => s!"floating point `{t}`"
  | .text s => "string " ++ Text.quoted s
  | .sequence => "sequence"
  | .map => "map"

def Cause.message : Cause → String
  | .endOfValue => "EOF while parsing a value"
  | .endOfObject => "EOF while parsing an object"
  | .endOfList => "EOF while parsing a list"
  | .endOfText => "EOF while parsing a string"
  | .expectedValue => "expected value"
  | .expectedIdentifier => "expected ident"
  | .expectedColon => "expected `:`"
  | .expectedMember => "expected `,` or `\x7d`"
  | .expectedElement => "expected `,` or `]`"
  | .keyNotText => "key must be a string"
  | .trailingComma => "trailing comma"
  | .trailingCharacters => "trailing characters"
  | .badNumber => "invalid number"
  | .numberOutOfRange => "number out of range"
  | .badEscape => "invalid escape"
  | .brokenPair => "unexpected end of hex escape"
  | .loneSurrogate => "lone leading surrogate in hex escape"
  | .controlCharacter => "control character (\\u0000-\\u001F) found while parsing a string"
  | .missing field => s!"missing field `{field}`"
  | .duplicate field => s!"duplicate field `{field}`"
  | .tooShort length record size =>
      s!"invalid length {length}, expected struct {record} with {size} elements"
  | .wrongType found expected => s!"invalid type: {found.message}, expected {expected}"
  | .wrongValue found expected => s!"invalid value: {found.message}, expected {expected}"

structure Fault where
  cause : Cause
  left : Nat

def behind (cs : List Char) (cause : Cause) : Fault := ⟨cause, octets cs⟩

def ahead (cs : List Char) (cause : Cause) : Fault := ⟨cause, octets cs - 1⟩

def advance (line column : Nat) : List Char → Nat → Nat × Nat
  | [], _ => (line, column)
  | c :: cs, n =>
      if n < c.utf8Size then (line, column + n)
      else if c = '\n' then advance (line + 1) 0 cs (n - 1)
      else advance line (column + c.utf8Size) cs (n - c.utf8Size)

def Fault.message (f : Fault) (input : List Char) : String :=
  let (line, column) := advance 1 0 input (octets input - f.left)
  s!"{f.cause.message} at line {line} column {column}"

end FirmwareUpdate.Json
