import FirmwareUpdate.Confirmation
import FirmwareUpdate.Upload.Transfer
import FirmwareUpdate.Workflow.Failure

/-! What an action leaves in its log: calls of the device, dialogs, the busy mark, events to render
and notices. A notice is named for its cause; its wording and its level follow from that. -/

namespace FirmwareUpdate.Workflow

inductive Call
  | info
  | upload (image : Upload.Image)
  | uploadDone
  | rollback
  | state

inductive Event
  | info (i : DeviceInfo)
  | upload (e : Upload.Event)
  | countdown (seconds : Nat)
  | reconnecting (a : Reconnect.Attempt)
  | online (attempts : Nat)
  | timedOut (attempts : Nat)

inductive Level
  | info
  | success
  | warning
  | error
  deriving DecidableEq

inductive Notice
  | infoFailed (f : Failure)
  | fileUnreadable (f : Failure)
  | rejected (r : Firmware.Rejection)
  | uploadFailed (f : Upload.Failure)
  | firmwareIntact
  | uploaded (countdown : Nat)
  | rollbackUnavailable
  | rollbackFailed (f : Failure)
  | rollbackRefused (message : String)
  | rollbackStarted
  | waitCancelled
  | online
  | tooSlow

namespace Notice

def message : Notice → String
  | .infoFailed f => s!"Failed to load firmware info: {f.message}"
  | .fileUnreadable f => s!"Error reading firmware file: {f.message}"
  | .rejected r => r.message
  | .uploadFailed .cancelled => "Upload cancelled"
  | .uploadFailed (.network _) => "Network error during upload. Please try again."
  | .uploadFailed (.http status) => s!"Upload failed: HTTP {status}"
  | .uploadFailed (.malformed _) => "Error: Invalid server response"
  | .uploadFailed (.rejected message) => s!"Firmware upload failed: {message}"
  | .firmwareIntact =>
      "Your current firmware is still intact and the device is functioning normally."
  | .uploaded countdown =>
      s!"Firmware uploaded successfully! Device will restart in {countdown} seconds..."
  | .rollbackUnavailable => "No previous firmware available for rollback"
  | .rollbackFailed f => s!"Error during rollback: {f.message}"
  | .rollbackRefused message => message
  | .rollbackStarted => "Rollback initiated. Device will restart..."
  | .waitCancelled => "Waiting for the device was cancelled"
  | .online => "Device is back online"
  | .tooSlow => "Device is taking longer than expected to restart. Please reload manually."

def level : Notice → Level
  | .infoFailed _ | .fileUnreadable _ | .rejected _ => .error
  | .rollbackFailed _ | .rollbackRefused _ => .error
  | .uploadFailed f => if f.isCancelled then .warning else .error
  | .rollbackUnavailable | .waitCancelled | .tooSlow => .warning
  | .uploaded _ | .rollbackStarted | .online => .success
  | .firmwareIntact => .info

end Notice

inductive Action
  | update
  | rollback
  deriving DecidableEq

inductive Entry
  | call (c : Call)
  | dialog (r : Confirmation.Request) (answer : Bool)
  | busy (a : Action) (on : Bool)
  | render (e : Event)
  | notify (n : Notice)

namespace Entry

def ofUpload : Upload.Entry → Entry
  | .started image => .call (.upload image)
  | .delivered => .call .uploadDone
  | .event e => .render (.upload e)

def ofReconnect : Reconnect.Entry → Entry
  | .attempt a => .render (.reconnecting a)
  | .probe => .call .state

end Entry

end FirmwareUpdate.Workflow
