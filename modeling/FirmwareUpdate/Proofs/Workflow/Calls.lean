import FirmwareUpdate.Proofs.Reconnect.Safety
import FirmwareUpdate.Proofs.Workflow.Session
import FirmwareUpdate.Proofs.Workflow.Truncation

/-! What an action calls beside what it comes to, when nobody cancels it. That the device is back is
told by nothing but a healthy probe. -/

namespace FirmwareUpdate.Workflow

variable {w : Workflow} {s : Setting} {path : String}

def IsBack (r : Option Result) : Prop :=
  ∃ attempts, r = some (.ok (.reachable attempts))

/-- What is called after a request, and the result of the action: the device is probed as often as is
allowed at most, and it is back if one of its probes is healthy. -/
def Followed (w : Workflow) (s : Setting) (k : List Call) (r : Option Result) : Prop :=
  ∃ n ≤ w.reconnect.maxAttempts, k = List.replicate n .state ∧
    (IsBack r ↔ ∃ i < n, (s.device.probe i).isHealthy w.reconnect.timeout = true)

lemma Followed.unprobed {r : Option Result} (h : ¬ IsBack r) : Followed w s [] r :=
  ⟨0, Nat.zero_le _, rfl, iff_of_false h (by simp)⟩

lemma conclusion_back (r : Except Reconnect.Failure Nat) :
    IsBack (some (conclusion r).2) ↔ ∃ k, r = .ok k := by
  cases r with
  | ok k => simp [IsBack, conclusion]
  | error f => cases f <;> simp [IsBack, conclusion]

lemma traces_requests (p : Reconnect.Policy) (ks : List Nat) :
    seen (fun e => (Entry.ofReconnect e).request?) (ks.flatMap (Reconnect.traces p)) =
      List.replicate ks.length .state := by
  induction ks with
  | nil => rfl
  | cons k ks ih =>
    rw [List.flatMap_cons, seen_append, ih]
    rfl

lemma aftermath_requests {polling : List (Stamped Reconnect.Entry)} {t : Nat}
    {r : Except Reconnect.Failure Nat} (countdown : Nat) (b : Action) (n : Notice) :
    seen Entry.request? (aftermath countdown b n polling t r).log =
      seen (fun e => (Entry.ofReconnect e).request?) polling := by
  have hcount : seen Entry.request? (announcements countdown) = [] := by
    refine seen_eq_nil.mpr fun e he => ?_
    obtain ⟨i, _, rfl⟩ := List.mem_map.mp he
    rfl
  have hend : ∀ u, seen Entry.request? ((conclusion r).1.map (⟨u, ·⟩)) = [] := by
    intro u
    cases r with
    | ok k => rfl
    | error f => cases f <;> rfl
  rw [aftermath, List.map_append, seen_append, seen_append, seen_cons, hcount, seen_later, seen_map,
    seen_append, hend]
  simp [Entry.request?]

lemma update_not_back (h : ∀ v data, ¬ Sends w s path .never v data) :
    ¬ IsBack ((update w s path .never).ending.map Prod.snd) := by
  rintro ⟨k, hk⟩
  rcases update_cases w s path with ⟨v, hs⟩ | ⟨_, n, e, hr⟩
  · cases ha : (s.reply 0).accepts with
    | false => simp [update_validated hs, confirmed_declined ha] at hk
    | true =>
      cases hr : v.file.read s.changed with
      | error e => simp [update_unread hs ha hr] at hk
      | ok data => exact h v data ⟨hs, ha, hr, rfl⟩
  · simp [hr] at hk

lemma uploadAndRestart_pending {f : Firmware.File} {data : ByteArray}
    (hr : f.read s.changed = .ok data) (hu : (sent s ⟨f.name, data⟩ .never).ending = none) :
    (uploadAndRestart w s f .never).ending = none := by
  have hm : ((sent s ⟨f.name, data⟩).mapLog Entry.ofUpload .never).ending = none := by
    simp [Activity.mapLog, hu]
  rw [uploadAndRestart_read hr, Activity.bind_of_stops _ hm]

lemma Sends.calls {v : Firmware.Validated w.firmware} {data : ByteArray}
    (h : Sends w s path .never v data) :
    ∃ k, seen Entry.request? (update w s path .never).log = .upload ⟨v.file.name, data⟩ :: k ∧
      Followed w s k ((update w s path .never).ending.map Prod.snd) := by
  obtain ⟨n, _, hq, hn⟩ := h.requests
  rw [Cancellation.never_after] at hn
  cases hu : (sent s ⟨v.file.name, data⟩ .never).ending with
  | none =>
    obtain rfl : n = 0 := hn.resolve_right (by simp [hu])
    refine ⟨[], hq, .unprobed ?_⟩
    simp [IsBack, update_ending h, uploadAndRestart_pending h.read hu]
  | some e =>
    obtain ⟨u, r⟩ := e
    cases r with
    | error e =>
      obtain rfl : n = 0 := hn.resolve_right (by simp [hu])
      refine ⟨[], hq, .unprobed ?_⟩
      rw [update_failed (c := .never) h.selected h.accepted h.read hu]
      simp [IsBack]
    | ok r =>
      obtain ⟨m, hm, t, r, hpoll, hr⟩ := Reconnect.poll_found w.reconnect s.device.probe
      rw [update_succeeds h hu hpoll]
      refine ⟨List.replicate m .state, ?_, m, hm, rfl, (conclusion_back r).trans hr⟩
      rw [Run.log_after, seen_append, h.uploadLog_requests, Run.log_later, seen_later,
        aftermath_requests, traces_requests, List.length_range']
      rfl

lemma rollback_not_back (h : ∀ d info, ¬ Grants s d info) :
    ¬ IsBack ((rollback w s .never).ending.map Prod.snd) := by
  rintro ⟨k, hk⟩
  rcases hi : s.device.info 0 with _ | ⟨d, causes | info⟩
  · simp [rollback_silent hi] at hk
  · simp [rollback_unanswered hi] at hk
  · cases hr : info.canRollback with
    | false => simp [rollback_unavailable hi hr] at hk
    | true =>
      have ha : (s.reply 0).accepts = false :=
        Bool.eq_false_of_not_eq_true fun ha => h d info ⟨hi, hr, ha⟩
      simp [rollback_available hi hr, confirmed_declined ha] at hk

lemma Grants.calls {d : Nat} {info : DeviceInfo} (h : Grants s d info) (w : Workflow) :
    ∃ k, seen Entry.request? (rollback w s .never).log = .info :: .rollback :: k ∧
      Followed w s k ((rollback w s .never).ending.map Prod.snd) := by
  have hasking : seen Entry.request? (asking s d info) = [.info] := rfl
  have hrun := rollback_granted h w .never
  rw [Cancellation.never_after] at hrun
  rcases hd : s.device.rollback 0 with _ | ⟨e, causes | v⟩
  · rw [hrun, rollbackAndRestart_silent hd]
    exact ⟨[], rfl, .unprobed (by simp [IsBack])⟩
  · rw [hrun, rollbackAndRestart_unanswered hd]
    exact ⟨[], rfl, .unprobed (by simp [IsBack])⟩
  · cases hv : v.success with
    | false =>
      rw [hrun, rollbackAndRestart_refused hd hv]
      exact ⟨[], rfl, .unprobed (by simp [IsBack])⟩
    | true =>
      obtain ⟨m, hm, t, r, hpoll, hr⟩ := Reconnect.poll_found w.reconnect s.device.probe
      rw [rollback_succeeds h hd hv hpoll]
      refine ⟨List.replicate m .state, ?_, m, hm, rfl, (conclusion_back r).trans hr⟩
      rw [Run.log_after, seen_append, seen_append, hasking, Run.log_later, seen_later,
        aftermath_requests, traces_requests, List.length_range']
      rfl

end FirmwareUpdate.Workflow
