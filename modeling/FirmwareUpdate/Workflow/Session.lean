import FirmwareUpdate.Workflow.Run

/-! What a user has done, one task after the other. Each has a token of its own, and meets the device,
the files and the user as the tasks before have left them. -/

namespace FirmwareUpdate.Workflow

inductive Task
  | info
  | update (path : String)
  | rollback

inductive Yield
  | info (i : DeviceInfo)
  | completion (c : Completion)

def perform (w : Workflow) (s : Setting) : Task → Activity Entry (Except Failure Yield)
  | .info => do return (← loadInfo s).map .info
  | .update path => do return (← w.update s path).map .completion
  | .rollback => do return (← w.rollback s).map .completion

def session (w : Workflow) (s : Setting) :
    List (Task × Cancellation) → List (Run Entry (Except Failure Yield))
  | [] => []
  | (task, c) :: rest =>
      let r := (w.perform s task).run c
      r :: if r.ending.isSome then session w (s.after r.entries) rest else []

end FirmwareUpdate.Workflow
