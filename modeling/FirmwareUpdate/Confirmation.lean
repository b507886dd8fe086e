import FirmwareUpdate.Duration
import FirmwareUpdate.Size

/-! What the user is asked before the device restarts, and the gate that lets an operation run only
if the user accepts. -/

namespace FirmwareUpdate.Confirmation

inductive Severity
  | info
  | warning
  | danger
  deriving DecidableEq

structure Request where
  title : String
  body : List String
  confirmLabel : String
  cancelLabel : Option String
  severity : Severity
  deriving DecidableEq

inductive Action
  | update (name : String) (size : Nat)
  | rollback

def Action.request : Action → Request
  | .update name size =>
      { title := "Firmware Update Confirmation"
        body :=
          ["Firmware File: " ++ name, "File Size: " ++ Size.text size,
            "Estimated Duration: " ++ Duration.estimateText size,
            "The device will restart automatically after the update.",
            "Do not power off or disconnect the device during the update.",
            "Do you want to proceed with the firmware update?"]
        confirmLabel := "Yes, Update Firmware"
        cancelLabel := some "Cancel"
        severity := .danger }
  | .rollback =>
      { title := "Firmware Rollback Confirmation"
        body :=
          ["This will revert the device to the previous firmware version.",
            "The device will restart immediately after rollback.",
            "All settings will be preserved.",
            "Do you want to rollback to the previous firmware?"]
        confirmLabel := "Yes, Rollback Firmware"
        cancelLabel := some "Cancel"
        severity := .warning }

variable {m : Type → Type} {α : Type} [Monad m]

def confirm (dialog : Request → m Bool) (a : Action) : m Bool :=
  dialog a.request

def runConfirmed (dialog : Request → m Bool) (a : Action) (operation : m α) : m (Option α) := do
  if ← confirm dialog a then return some (← operation) else return none

end FirmwareUpdate.Confirmation
