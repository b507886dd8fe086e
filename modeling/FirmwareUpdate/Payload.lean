import FirmwareUpdate.Json.Record
import FirmwareUpdate.Json.Written

/-! What a device answers: the firmware it runs, and its verdicts on an uploaded image and on a
request to go back to the firmware before. Writing what a device runs and decoding it again changes
nothing. -/

namespace FirmwareUpdate

open Json

structure DeviceInfo where
  version : Option String
  buildDate : Option String
  idfVersion : Option String
  canRollback : Bool
  partitionLabel : Option String
  appSize : Option UInt64
  deriving DecidableEq

structure UploadVerdict where
  success : Bool
  error : Option String
  deriving DecidableEq

structure RollbackVerdict where
  success : Bool
  message : Option String
  deriving DecidableEq

def messageOr (default : String) : Option String → String
  | none => default
  | some m => if m = "" then default else m

namespace DeviceInfo

def record : Record where
  name := "OtaInfo"
  fields :=
    [⟨"version", .text, false⟩, ⟨"build_date", .text, false⟩, ⟨"idf_version", .text, false⟩,
      ⟨"can_rollback", .flag, true⟩, ⟨"partition_label", .text, true⟩, ⟨"app_size", .size, true⟩]

def ofMembers (ms : Members) : DeviceInfo where
  version := ms.text? "version"
  buildDate := ms.text? "build_date"
  idfVersion := ms.text? "idf_version"
  canRollback := (ms.flag? "can_rollback").getD false
  partitionLabel := ms.text? "partition_label"
  appSize := ms.size? "app_size"

def decode (cs : List Char) : Except Fault DeviceInfo :=
  (record.read cs).map ofMembers

def encode (info : DeviceInfo) : List Char :=
  writeObject
    [writeMember "version" (writeOptionalText info.version),
      writeMember "build_date" (writeOptionalText info.buildDate),
      writeMember "idf_version" (writeOptionalText info.idfVersion),
      writeMember "can_rollback" (writeFlag info.canRollback),
      writeMember "partition_label" (writeOptionalText info.partitionLabel),
      writeMember "app_size" (writeOptionalSize info.appSize)]

end DeviceInfo

namespace UploadVerdict

def record : Record where
  name := "UploadResponse"
  fields := [⟨"success", .flag, false⟩, ⟨"error", .text, true⟩]

def ofMembers (ms : Members) : UploadVerdict where
  success := (ms.flag? "success").getD false
  error := ms.text? "error"

def decode (cs : List Char) : Except Fault UploadVerdict :=
  (record.read cs).map ofMembers

end UploadVerdict

namespace RollbackVerdict

def record : Record where
  name := "RollbackResponse"
  fields := [⟨"success", .flag, false⟩, ⟨"message", .text, true⟩]

def ofMembers (ms : Members) : RollbackVerdict where
  success := (ms.flag? "success").getD false
  message := ms.text? "message"

def decode (cs : List Char) : Except Fault RollbackVerdict :=
  (record.read cs).map ofMembers

end RollbackVerdict

end FirmwareUpdate
