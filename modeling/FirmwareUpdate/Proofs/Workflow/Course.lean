import FirmwareUpdate.Proofs.Activity
import FirmwareUpdate.Proofs.Firmware
import FirmwareUpdate.Workflow.Run

/-! The course of an action. An action that ends before its dialog, or that waits for ever for the
first answer of the device, has its whole log written out; from the dialog on, its log is that of
the operation between the two marks. -/

namespace FirmwareUpdate.Workflow

open Firmware (validate_file validate_validated)

variable {α : Type}

def question (f : Firmware.File) : Confirmation.Action :=
  .update f.name f.size

def confirmed (s : Setting) (a : Confirmation.Action) (operation : Activity Entry Result) :
    Activity Entry Result := do
  if ← dialog s a.request then operation else return .ok .declined

lemma dialog_bind {β : Type} (s : Setting) (r : Confirmation.Request)
    (f : Bool → Activity Entry β) (c : Cancellation) :
    (dialog s r >>= f) c =
      ((f (s.reply 0).accepts (c.after (s.reply 0).delay 1)).later (s.reply 0).delay).after
        [⟨(s.reply 0).delay, .dialog r (s.reply 0).accepts⟩] := by
  simp only [dialog, bind_assoc, pure_bind]
  rw [Activity.pass_bind, Activity.write_bind]
  simp [Stamped.later]

lemma confirmed_declined {s : Setting} (h : (s.reply 0).accepts = false)
    (a : Confirmation.Action) (x : Activity Entry Result) (c : Cancellation) :
    confirmed s a x c =
      ⟨[⟨(s.reply 0).delay, .dialog a.request false⟩], some ((s.reply 0).delay, .ok .declined)⟩ := by
  rw [confirmed, dialog_bind, h]
  rfl

def opening (s : Setting) (a : Confirmation.Action) (b : Action) : List (Stamped Entry) :=
  [⟨(s.reply 0).delay, .dialog a.request true⟩, ⟨(s.reply 0).delay, .busy b true⟩]

def closing (b : Action) (ending : Option (Nat × α)) : List (Stamped Entry) :=
  ending.toList.map fun e => ⟨e.1, .busy b false⟩

lemma closing_later (b : Action) (t : Nat) (ending : Option (Nat × α)) :
    (closing b ending).map (Stamped.later t) =
      closing b (ending.map fun (u, r) => (t + u, r)) := by
  cases ending with
  | none => rfl
  | some e => rfl

lemma busy_run (b : Action) (x : Activity Entry α) (c : Cancellation) :
    busy b x c =
      ⟨⟨0, .busy b true⟩ :: ((x (c.after 0 1)).log ++ closing b (x (c.after 0 1)).ending),
        (x (c.after 0 1)).ending⟩ := by
  rw [busy, Activity.write_bind]
  cases h : (x (c.after 0 1)).ending with
  | none =>
    rw [Activity.bind_of_stops _ h]
    simp [Run.after, closing]
  | some e =>
    obtain ⟨t, r⟩ := e
    rw [Activity.bind_of_ends _ h, Activity.write_bind]
    simp [Run.after, Run.later, Stamped.later, closing]

lemma confirmed_accepted {s : Setting} (h : (s.reply 0).accepts = true)
    (a : Confirmation.Action) (b : Action) (x : Activity Entry Result) (c : Cancellation) :
    let r := (x (c.after (s.reply 0).delay 2)).later (s.reply 0).delay
    confirmed s a (busy b x) c = ⟨opening s a b ++ r.log ++ closing b r.ending, r.ending⟩ := by
  rw [confirmed, dialog_bind, h, if_pos rfl, busy_run]
  simp [Run.after, Run.later, closing_later, opening, Stamped.later]

lemma runConfirmed_bind {s : Setting} {a : Confirmation.Action} {x : Activity Entry Result}
    {f : Option Result → Activity Entry Result} (hr : ∀ r, f (some r) = pure r)
    (hn : f none = pure (.ok .declined)) :
    Confirmation.runConfirmed (dialog s) a x >>= f = confirmed s a x := by
  simp only [Confirmation.runConfirmed, Confirmation.confirm, confirmed, bind_assoc]
  congr 1
  funext accepts
  cases accepts with
  | true => simp [hr]
  | false => simp [hn]

def followPoll : Except Reconnect.Failure Nat → Activity Entry Result
  | .ok attempts => do
      render (.online attempts)
      notify .online
      return .ok (.reachable attempts)
  | .error (.timedOut attempts) => do
      render (.timedOut attempts)
      notify .tooSlow
      return .ok (.reloadManually attempts)
  | .error (.cancelled attempts) => do
      notify .waitCancelled
      return .error (.poll (.cancelled attempts))

def polled (w : Workflow) (s : Setting) : Activity Entry (Except Reconnect.Failure Nat) :=
  (Reconnect.poll w.reconnect s.device.probe).mapLog .ofReconnect

lemma followRestart_eq (w : Workflow) (s : Setting) :
    followRestart w s = countDown w.countdown >>= fun goesOn =>
      if goesOn then polled w s >>= followPoll else followPoll (.error (.cancelled 0)) := by
  simp only [followRestart]
  rfl

variable {w : Workflow} {s : Setting} {path : String}

lemma update_unselected {e : Firmware.AccessError} (h : Firmware.select s.files path = .error e)
    (c : Cancellation) :
    update w s path c =
      ⟨[⟨0, .notify (.fileUnreadable (.fileAccess e.message))⟩],
        some (0, .error (.fileAccess e.message))⟩ := by
  simp only [update, h, notify, Activity.write_bind]
  rfl

lemma update_rejected {f : Firmware.File} {r : Firmware.Rejection}
    (hs : Firmware.select s.files path = .ok f) (hr : w.firmware.validate f = .error r)
    (c : Cancellation) :
    update w s path c = ⟨[⟨0, .notify (.rejected r)⟩], some (0, .error (.rejected r))⟩ := by
  simp only [update, hs, hr, notify, Activity.write_bind]
  rfl

lemma update_validated {v : Firmware.Validated w.firmware}
    (h : Firmware.select s.files path = .ok v.file) :
    update w s path =
      confirmed s (question v.file) (busy .update (uploadAndRestart w s v.file)) := by
  simp only [update, h, validate_validated]
  exact runConfirmed_bind (fun _ => rfl) rfl

lemma update_cases (w : Workflow) (s : Setting) (path : String) :
    (∃ v : Firmware.Validated w.firmware, Firmware.select s.files path = .ok v.file) ∨
      (∀ v : Firmware.Validated w.firmware, Firmware.select s.files path ≠ .ok v.file) ∧
        ∃ n e, ∀ c, update w s path c = ⟨[⟨0, .notify n⟩], some (0, .error e)⟩ := by
  cases hs : Firmware.select s.files path with
  | error e =>
    refine .inr ⟨?_, _, _, update_unselected hs⟩
    intro v hf
    cases hf
  | ok f =>
    cases hv : w.firmware.validate f with
    | ok v => exact .inl ⟨v, by rw [validate_file hv]⟩
    | error r =>
      refine .inr ⟨?_, _, _, update_rejected hs hv⟩
      intro v hf
      cases hf
      rw [validate_validated] at hv
      cases hv

lemma uploadAndRestart_unread {f : Firmware.File} {e : Firmware.AccessError}
    (h : f.read s.changed = .error e) (c : Cancellation) :
    uploadAndRestart w s f c =
      ⟨[⟨0, .notify (.fileUnreadable (.fileAccess e.message))⟩],
        some (0, .error (.fileAccess e.message))⟩ := by
  simp only [uploadAndRestart, h, notify, Activity.write_bind]
  rfl

def followUpload (w : Workflow) (s : Setting) : Upload.Result → Activity Entry Result
  | .error e => do
      notify (.uploadFailed e)
      notify .firmwareIntact
      return .error (.upload e)
  | .ok () => do
      notify (.uploaded w.countdown)
      followRestart w s

def sent (s : Setting) (image : Upload.Image) : Activity Upload.Entry Upload.Result :=
  Upload.drive image (s.device.upload 0 image)

lemma uploadAndRestart_read {f : Firmware.File} {data : ByteArray}
    (h : f.read s.changed = .ok data) :
    uploadAndRestart w s f =
      ((sent s ⟨f.name, data⟩).mapLog .ofUpload >>= followUpload w s) := by
  simp only [uploadAndRestart, h, sent]
  rfl

def followInfo (w : Workflow) (s : Setting) : Except Failure DeviceInfo → Activity Entry Result
  | .error f => pure (.error f)
  | .ok info =>
      if info.canRollback then confirmed s .rollback (busy .rollback (rollbackAndRestart w s))
      else do
        notify .rollbackUnavailable
        return .error .rollbackUnavailable

lemma rollback_eq (w : Workflow) (s : Setting) : rollback w s = loadInfo s >>= followInfo w s := by
  rw [rollback]
  congr 1
  funext answer
  cases answer with
  | error f => rfl
  | ok info =>
    have hr := runConfirmed_bind (s := s) (a := .rollback)
      (x := busy .rollback (rollbackAndRestart w s)) (f := fun r => pure (r.getD (.ok .declined)))
      (fun _ => rfl) rfl
    simp only [followInfo, ← hr]
    congr 2
    funext r
    cases r <;> rfl

lemma await_bind {β : Type} {answer : Answer α} {d : Nat} {r : Except Causes α}
    (h : answer = some (d, r)) (f : Except Causes α → Activity Entry β) (c : Cancellation) :
    (await answer >>= f) c = (f r (c.after d 0)).later d := by
  rw [h, await, bind_assoc, Activity.pass_bind, pure_bind]

def infoRun : Answer DeviceInfo → Run Entry (Except Failure DeviceInfo)
  | none => ⟨[⟨0, .call .info⟩], none⟩
  | some (d, .error causes) =>
      ⟨[⟨0, .call .info⟩, ⟨d, .notify (.infoFailed (.device causes.message))⟩],
        some (d, .error (.device causes.message))⟩
  | some (d, .ok info) => ⟨[⟨0, .call .info⟩, ⟨d, .render (.info info)⟩], some (d, .ok info)⟩

lemma loadInfo_run (s : Setting) (c : Cancellation) :
    loadInfo s c = infoRun (s.device.info 0) := by
  rw [loadInfo, call, Activity.write_bind]
  cases s.device.info 0 with
  | none => rfl
  | some a =>
    obtain ⟨d, r⟩ := a
    rw [await_bind rfl]
    cases r <;> rfl

lemma rollback_silent (h : s.device.info 0 = none) (c : Cancellation) :
    rollback w s c = ⟨[⟨0, .call .info⟩], none⟩ := by
  simp only [rollback, loadInfo, h, call, await, bind_assoc, Activity.write_bind]
  rfl

lemma rollback_unanswered {d : Nat} {causes : Causes}
    (h : s.device.info 0 = some (d, .error causes)) (c : Cancellation) :
    rollback w s c =
      ⟨[⟨0, .call .info⟩, ⟨d, .notify (.infoFailed (.device causes.message))⟩],
        some (d, .error (.device causes.message))⟩ := by
  simp only [rollback, loadInfo, call, notify, bind_assoc, pure_bind, Activity.write_bind,
    await_bind h]
  rfl

lemma rollback_unavailable {d : Nat} {info : DeviceInfo}
    (h : s.device.info 0 = some (d, .ok info)) (hr : info.canRollback = false) (c : Cancellation) :
    rollback w s c =
      ⟨[⟨0, .call .info⟩, ⟨d, .render (.info info)⟩, ⟨d, .notify .rollbackUnavailable⟩],
        some (d, .error .rollbackUnavailable)⟩ := by
  simp only [rollback, loadInfo, hr, call, render, notify, bind_assoc, pure_bind,
    Activity.write_bind, await_bind h]
  rfl

lemma rollback_available {d : Nat} {info : DeviceInfo} (h : s.device.info 0 = some (d, .ok info))
    (hr : info.canRollback = true) (c : Cancellation) :
    rollback w s c =
      ((confirmed s .rollback (busy .rollback (rollbackAndRestart w s)) (c.after d 2)).later d).after
        [⟨0, .call .info⟩, ⟨d, .render (.info info)⟩] := by
  simp only [rollback, loadInfo, hr, call, render, bind_assoc, pure_bind, Activity.write_bind,
    await_bind h, if_true]
  rw [runConfirmed_bind]
  · simp [Stamped.later]
  · exact fun _ => rfl
  · rfl

lemma rollbackAndRestart_silent (h : s.device.rollback 0 = none) (c : Cancellation) :
    rollbackAndRestart w s c = ⟨[⟨0, .call .rollback⟩], none⟩ := by
  simp only [rollbackAndRestart, h, call, await, Activity.write_bind]
  rfl

lemma rollbackAndRestart_unanswered {d : Nat} {causes : Causes}
    (h : s.device.rollback 0 = some (d, .error causes)) (c : Cancellation) :
    rollbackAndRestart w s c =
      ⟨[⟨0, .call .rollback⟩, ⟨d, .notify (.rollbackFailed (.device causes.message))⟩],
        some (d, .error (.device causes.message))⟩ := by
  simp only [rollbackAndRestart, call, notify, Activity.write_bind, await_bind h]
  rfl

lemma rollbackAndRestart_refused {d : Nat} {v : RollbackVerdict}
    (h : s.device.rollback 0 = some (d, .ok v)) (hv : v.success = false) (c : Cancellation) :
    rollbackAndRestart w s c =
      ⟨[⟨0, .call .rollback⟩,
          ⟨d, .notify (.rollbackRefused (messageOr "Rollback failed" v.message))⟩],
        some (d, .error (.rollback (messageOr "Rollback failed" v.message)))⟩ := by
  simp only [rollbackAndRestart, hv, call, notify, Activity.write_bind, await_bind h]
  rfl

lemma rollbackAndRestart_started {d : Nat} {v : RollbackVerdict}
    (h : s.device.rollback 0 = some (d, .ok v)) (hv : v.success = true) (c : Cancellation) :
    rollbackAndRestart w s c =
      ((followRestart w s (c.after d 2)).later d).after
        [⟨0, .call .rollback⟩, ⟨d, .notify .rollbackStarted⟩] := by
  simp only [rollbackAndRestart, hv, call, notify, Activity.write_bind, await_bind h, if_true]
  simp [Stamped.later]

end FirmwareUpdate.Workflow
