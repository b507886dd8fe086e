import FirmwareUpdate.Firmware
import FirmwareUpdate.Reconnect
import FirmwareUpdate.Upload.Failure

/-! How an action fails. -/

namespace FirmwareUpdate.Workflow

inductive Failure
  | fileAccess (reason : String)
  | rejected (r : Firmware.Rejection)
  | upload (f : Upload.Failure)
  | poll (f : Reconnect.Failure)
  | rollbackUnavailable
  | rollback (reason : String)
  | device (reason : String)

def Failure.message : Failure → String
  | .fileAccess reason => s!"failed to access firmware file: {reason}"
  | .rejected r => r.message
  | .upload f => f.message
  | .poll f => f.message
  | .rollbackUnavailable => "rollback is not available: no previous firmware on the device"
  | .rollback reason => s!"rollback failed: {reason}"
  | .device reason => s!"failed to query device: {reason}"

end FirmwareUpdate.Workflow
