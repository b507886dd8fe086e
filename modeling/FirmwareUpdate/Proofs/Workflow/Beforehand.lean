import FirmwareUpdate.Proofs.Workflow.Truncation

/-! Actions whose token is cancelled by the time the user has agreed. An update looks at the token
before the device hears of the image, and asks nothing of it. A rollback looks at the token no sooner
than it waits for the device to restart, so it is asked for all the same. -/

namespace FirmwareUpdate.Workflow

variable {w : Workflow} {s : Setting} {path : String} {c : Cancellation}

def dueSeconds (n : Nat) : List Entry :=
  if n = 0 then [] else [.render (.countdown n)]

/-- The token is not looked at if there is neither a second to announce nor an attempt to make. -/
def dueFailure (w : Workflow) : Reconnect.Failure :=
  if w.countdown = 0 ∧ w.reconnect.maxAttempts = 0 then .timedOut 0 else .cancelled 0

lemma countDown_due (hc : c.isDue = true) (n : Nat) :
    countDown n c = ⟨(dueSeconds n).map (⟨0, ·⟩), some (0, n = 0)⟩ := by
  cases n with
  | zero => rfl
  | succ n =>
    rw [countDown, render, Activity.write_bind,
      Activity.await_bind_due (Cancellation.isDue_after hc 0 1)]
    rfl

lemma poll_due (hc : c.isDue = true) (p : Reconnect.Policy) (probes : Nat → Reconnect.Probe) :
    Reconnect.poll p probes c =
      ⟨[], some (0, .error (if p.maxAttempts = 0 then .timedOut 0 else .cancelled 0))⟩ := by
  by_cases hm : p.maxAttempts = 0
  · rw [if_pos hm, Reconnect.poll_unattempted hm]
  · rw [if_neg hm, (Reconnect.poll_polls p probes).due (.inl hm) hc]

lemma polled_due (hc : c.isDue = true) (w : Workflow) (s : Setting) :
    polled w s c =
      ⟨[], some (0, .error (if w.reconnect.maxAttempts = 0 then .timedOut 0 else .cancelled 0))⟩ := by
  rw [polled, Activity.mapLog, poll_due hc]
  rfl

lemma followRestart_due (hc : c.isDue = true) (w : Workflow) (s : Setting) :
    followRestart w s c =
      ⟨(dueSeconds w.countdown ++ (conclusion (.error (dueFailure w))).1).map (⟨0, ·⟩),
        some (0, (conclusion (.error (dueFailure w))).2)⟩ := by
  have hn := countDown_due hc w.countdown
  rw [followRestart_eq, Activity.bind_of_ends _ (congrArg Run.ending hn), hn]
  by_cases h : w.countdown = 0
  · have hp := polled_due (Cancellation.isDue_after hc 0 (dueSeconds 0).length) w s
    simp only [h, decide_true, if_true, List.length_map]
    rw [Activity.bind_of_ends _ (congrArg Run.ending hp), hp, followPoll_prompt]
    simp [dueSeconds, dueFailure, h]
  · simp only [h, decide_false]
    rw [if_neg Bool.false_ne_true, followPoll_prompt]
    simp [dueSeconds, dueFailure, h, Run.after]

def overtaken (w : Workflow) : Answer RollbackVerdict → Run Entry Result
  | none => ⟨[], none⟩
  | some (e, .error causes) =>
      ⟨[⟨e, .notify (.rollbackFailed (.device causes.message))⟩, ⟨e, .busy .rollback false⟩],
        some (e, .error (.device causes.message))⟩
  | some (e, .ok v) =>
      if v.success then
        ⟨(.notify .rollbackStarted :: (dueSeconds w.countdown ++
            (conclusion (.error (dueFailure w))).1 ++ [.busy .rollback false])).map (⟨e, ·⟩),
          some (e, (conclusion (.error (dueFailure w))).2)⟩
      else
        let m := messageOr "Rollback failed" v.message
        ⟨[⟨e, .notify (.rollbackRefused m)⟩, ⟨e, .busy .rollback false⟩],
          some (e, .error (.rollback m))⟩

lemma rollback_due {d : Nat} {info : DeviceInfo} (h : Grants s d info)
    (hc : (c.after (d + (s.reply 0).delay) 4).isDue = true) :
    rollback w s c =
      ((overtaken w (s.device.rollback 0)).later (d + (s.reply 0).delay)).after
        (asking s d info ++ [⟨d + (s.reply 0).delay, .call .rollback⟩]) := by
  rw [rollback_granted h]
  cases hr : s.device.rollback 0 with
  | none =>
    rw [rollbackAndRestart_silent hr]
    simp [overtaken, Run.later, Run.after, Stamped.later, closing]
  | some a =>
    obtain ⟨e, r⟩ := a
    cases r with
    | error causes =>
      rw [rollbackAndRestart_unanswered hr]
      simp [overtaken, Run.later, Run.after, Stamped.later, closing]
    | ok v =>
      cases hv : v.success with
      | false =>
        rw [rollbackAndRestart_refused hr hv]
        simp [overtaken, hv, Run.later, Run.after, Stamped.later, closing]
      | true =>
        have hd := Cancellation.isDue_after hc e 2
        rw [rollbackAndRestart_started hr hv, followRestart_due hd]
        simp [overtaken, hv, Run.later, Run.after, Stamped.later, closing, Function.comp_def]

theorem cancelled_beforehand (w : Workflow) (s : Setting) (path : String) (c : Cancellation) :
    ((c.after (s.reply 0).delay 2).isDue = true →
      seen Entry.request? ((update w s path).run c).log = [] ∧
      ∀ (v : Firmware.Validated w.firmware) (data : ByteArray),
        Firmware.select s.files path = .ok v.file → (s.reply 0).accepts = true →
        v.file.read s.changed = .ok data →
        (update w s path).run c =
          ⟨opening s (question v.file) .update ++
            (.render (.upload (.status .uploading)) :: uploadCancelled).map
              (⟨(s.reply 0).delay, ·⟩),
            some ((s.reply 0).delay, .error (.upload .cancelled))⟩) ∧
    ∀ d info, Grants s d info → (c.after (d + (s.reply 0).delay) 4).isDue = true →
      (rollback w s).run c =
        ((overtaken w (s.device.rollback 0)).later (d + (s.reply 0).delay)).after
          (asking s d info ++ [⟨d + (s.reply 0).delay, .call .rollback⟩]) := by
  constructor
  · intro hc
    have hd : (c.after (s.reply 0).delay 3).isDue = true := by
      simpa using Cancellation.isDue_after hc 0 1
    constructor
    · apply update_idle
      intro v data h
      rw [h.going] at hd
      cases hd
    · intro v data hs ha hr
      exact update_due hs ha hr hd
  · intro d info h hc
    exact rollback_due h hc

def readyRollback : Setting where
  files := .empty
  device := {
    info := fun _ => some (0, .ok ⟨none, none, none, true, none, none⟩)
    upload := fun _ _ => ⟨[], .aborted⟩
    rollback := fun _ => some (0, .ok ⟨true, none⟩)
    probe := fun _ => .answer 0 true }
  reply _ := ⟨true, 0, []⟩

theorem cancelled_rollback_requested :
    (Cancellation.before.after (readyRollback.reply 0).delay 4).isDue = true ∧
    seen Entry.request? ((rollback standard readyRollback).run .before).log = [.info, .rollback] ∧
    ((rollback standard readyRollback).run .before).ending =
      some (0, .error (.poll (.cancelled 0))) :=
  ⟨rfl, rfl, rfl⟩

end FirmwareUpdate.Workflow
