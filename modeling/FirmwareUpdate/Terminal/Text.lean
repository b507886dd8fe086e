import FirmwareUpdate.Confirmation
import FirmwareUpdate.Payload

/-! The texts of the terminal, and the answers that count as consent. -/

namespace FirmwareUpdate.Terminal

def isYes (cs : List Char) : Bool :=
  let word := (Text.trim cs).map Char.toLower
  word == ['y'] || word == ['y', 'e', 's']

def marker : Confirmation.Severity → String
  | .info => ""
  | .warning | .danger => "WARNING: "

def dialogText (r : Confirmation.Request) : String :=
  r.body.foldl (fun text line => text ++ "  " ++ line ++ "\n")
    ("\n" ++ marker r.severity ++ r.title ++ "\n")

def sampleMessage (speed : Float) (left : Option Float) : String :=
  match left with
  | some t => Size.rateText speed ++ " - " ++ Duration.text t ++ " remaining"
  | none => Size.rateText speed ++ " - calculating..."

def known (text : Option String) : String := text.getD "Unknown"

def infoLines (i : DeviceInfo) : List String :=
  ["Firmware Version: " ++ known i.version, "Build Date:       " ++ known i.buildDate,
    "IDF Version:      " ++ known i.idfVersion] ++
  (i.partitionLabel.map fun (label : String) => "Partition:        " ++ label).toList ++
  (i.appSize.map fun (size : UInt64) => "App Size:         " ++ Size.text size.toNat).toList ++
  ["Rollback:         " ++ if i.canRollback then "available" else "no previous firmware"]

end FirmwareUpdate.Terminal
