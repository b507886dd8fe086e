import FirmwareUpdate.Workflow.Entry

/-! The setting of an action: the file system, what the device will answer and what the user will
do. Of each kind of call the first gets the first answer, and so on; an action uses up the answers
to the calls in its log. -/

namespace FirmwareUpdate.Workflow

abbrev Causes := List String

def Causes.message (cs : Causes) : String :=
  ": ".intercalate cs

abbrev Answer (α : Type) := Option (Nat × Except Causes α)

structure Device where
  info : Nat → Answer DeviceInfo
  upload : Nat → Upload.Image → Upload.Transfer
  rollback : Nat → Answer RollbackVerdict
  probe : Nat → Reconnect.Probe

structure Reply where
  accepts : Bool
  delay : Nat
  changes : List Files.Change

structure Setting where
  files : Files
  device : Device
  reply : Nat → Reply

namespace Entry

def isInfo : Entry → Bool
  | .call .info => true
  | _ => false

def isUpload : Entry → Bool
  | .call (.upload _) => true
  | _ => false

def isRollback : Entry → Bool
  | .call .rollback => true
  | _ => false

def isProbe : Entry → Bool
  | .call .state => true
  | _ => false

def isDialog : Entry → Bool
  | .dialog _ _ => true
  | _ => false

def question? : Entry → Option Confirmation.Request
  | .dialog r _ => some r
  | _ => none

end Entry

def Device.after (d : Device) (log : List Entry) : Device where
  info n := d.info (n + log.countP Entry.isInfo)
  upload n := d.upload (n + log.countP Entry.isUpload)
  rollback n := d.rollback (n + log.countP Entry.isRollback)
  probe n := d.probe (n + log.countP Entry.isProbe)

def Setting.changed (s : Setting) : Files :=
  s.files.applyAll (s.reply 0).changes

def Setting.after (s : Setting) (log : List Entry) : Setting where
  files := if log.any Entry.isDialog then s.changed else s.files
  device := s.device.after log
  reply n := s.reply (n + log.countP Entry.isDialog)

end FirmwareUpdate.Workflow
