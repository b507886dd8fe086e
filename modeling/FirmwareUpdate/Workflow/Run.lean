import FirmwareUpdate.Workflow.Setting

/-! The actions of a user, each from its first look at the device or the files to its last notice.
-/

namespace FirmwareUpdate

structure Workflow where
  firmware : Firmware.Policy
  reconnect : Reconnect.Policy
  countdown : Nat

namespace Workflow

def standard : Workflow := ⟨.standard, .standard, 5⟩

inductive Completion
  | declined
  | reachable (attempts : Nat)
  | reloadManually (attempts : Nat)
  deriving DecidableEq

abbrev Result := Except Failure Completion

def call (c : Call) : Activity Entry Unit := .write (.call c)

def render (e : Event) : Activity Entry Unit := .write (.render e)

def notify (n : Notice) : Activity Entry Unit := .write (.notify n)

def await {α : Type} : Answer α → Activity Entry (Except Causes α)
  | none => .hang
  | some (delay, r) => do
      .pass delay
      return r

def loadInfo (s : Setting) : Activity Entry (Except Failure DeviceInfo) := do
  call .info
  match ← await (s.device.info 0) with
  | .error causes =>
      let f := Failure.device causes.message
      notify (.infoFailed f)
      return .error f
  | .ok info =>
      render (.info info)
      return .ok info

def dialog (s : Setting) (r : Confirmation.Request) : Activity Entry Bool := do
  .pass (s.reply 0).delay
  .write (.dialog r (s.reply 0).accepts)
  return (s.reply 0).accepts

def busy {α : Type} (a : Action) (operation : Activity Entry α) : Activity Entry α := do
  .write (.busy a true)
  let r ← operation
  .write (.busy a false)
  return r

def countDown : Nat → Activity Entry Bool
  | 0 => return true
  | n + 1 => do
      render (.countdown (n + 1))
      if ← .await 1000 then countDown n else return false

def followRestart (w : Workflow) (s : Setting) : Activity Entry Result := do
  if ← countDown w.countdown then
    match ← (Reconnect.poll w.reconnect s.device.probe).mapLog .ofReconnect with
    | .ok attempts =>
        render (.online attempts)
        notify .online
        return .ok (.reachable attempts)
    | .error (.timedOut attempts) =>
        render (.timedOut attempts)
        notify .tooSlow
        return .ok (.reloadManually attempts)
    | .error (.cancelled attempts) =>
        notify .waitCancelled
        return .error (.poll (.cancelled attempts))
  else
    notify .waitCancelled
    return .error (.poll (.cancelled 0))

def uploadAndRestart (w : Workflow) (s : Setting) (f : Firmware.File) : Activity Entry Result := do
  match f.read s.changed with
  | .error e =>
      let f := Failure.fileAccess e.message
      notify (.fileUnreadable f)
      return .error f
  | .ok data =>
      let image : Upload.Image := ⟨f.name, data⟩
      match ← (Upload.drive image (s.device.upload 0 image)).mapLog .ofUpload with
      | .error e =>
          notify (.uploadFailed e)
          notify .firmwareIntact
          return .error (.upload e)
      | .ok () =>
          notify (.uploaded w.countdown)
          followRestart w s

def rollbackAndRestart (w : Workflow) (s : Setting) : Activity Entry Result := do
  call .rollback
  match ← await (s.device.rollback 0) with
  | .error causes =>
      let f := Failure.device causes.message
      notify (.rollbackFailed f)
      return .error f
  | .ok v =>
      if v.success then
        notify .rollbackStarted
        followRestart w s
      else
        let m := messageOr "Rollback failed" v.message
        notify (.rollbackRefused m)
        return .error (.rollback m)

def update (w : Workflow) (s : Setting) (path : String) : Activity Entry Result := do
  match Firmware.select s.files path with
  | .error e =>
      let f := Failure.fileAccess e.message
      notify (.fileUnreadable f)
      return .error f
  | .ok file =>
      match w.firmware.validate file with
      | .error r =>
          notify (.rejected r)
          return .error (.rejected r)
      | .ok v =>
          let question := Confirmation.Action.update v.file.name v.file.size
          let operation := busy .update (uploadAndRestart w s v.file)
          match ← Confirmation.runConfirmed (dialog s) question operation with
          | some r => return r
          | none => return .ok .declined

def rollback (w : Workflow) (s : Setting) : Activity Entry Result := do
  match ← loadInfo s with
  | .error f => return .error f
  | .ok info =>
      if info.canRollback then
        let operation := busy .rollback (rollbackAndRestart w s)
        match ← Confirmation.runConfirmed (dialog s) .rollback operation with
        | some r => return r
        | none => return .ok .declined
      else
        notify .rollbackUnavailable
        return .error .rollbackUnavailable

end Workflow

end FirmwareUpdate
