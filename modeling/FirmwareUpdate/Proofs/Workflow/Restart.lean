import FirmwareUpdate.Proofs.Reconnect.Attempts
import FirmwareUpdate.Proofs.Workflow.Course

/-! What the wait for a restart asks of the device: nothing while it counts down, and then its state,
as often as is allowed at most. -/

namespace FirmwareUpdate.Workflow

namespace Entry

def request? : Entry → Option Call
  | .call .uploadDone => none
  | .call c => some c
  | _ => none

def answer? : Entry → Option (Confirmation.Request × Bool)
  | .dialog r answer => some (r, answer)
  | _ => none

end Entry

lemma requested {log before after : List (Stamped Entry)} {t : Nat} {e : Entry} {k : Call}
    (hl : log = before ++ ⟨t, e⟩ :: after) (he : e.request? = some k) :
    k ∈ seen Entry.request? log :=
  mem_seen.mpr ⟨⟨t, e⟩, by simp [hl], he⟩

variable {P : Entry → Prop}

lemma countDown_keeps (hr : ∀ e, (∀ u, e ≠ .upload u) → P (.render e)) (n : Nat) :
    Activity.Keeps P (countDown n) := by
  induction n with
  | zero => exact .pure true
  | succ n ih =>
    refine .bind (.write (hr _ nofun)) fun _ => ?_
    exact .bind (.await _) fun _ => .ite ih (.pure _)

lemma followPoll_keeps (hr : ∀ e, (∀ u, e ≠ .upload u) → P (.render e))
    (hn : ∀ n, P (.notify n)) (r : Except Reconnect.Failure Nat) :
    Activity.Keeps P (followPoll r) := by
  cases r with
  | ok attempts => exact .bind (.write (hr _ nofun)) fun _ => .bind (.write (hn _)) fun _ => .pure _
  | error e =>
    cases e with
    | timedOut attempts =>
      exact .bind (.write (hr _ nofun)) fun _ => .bind (.write (hn _)) fun _ => .pure _
    | cancelled attempts => exact .bind (.write (hn _)) fun _ => .pure _

lemma polled_keeps (hr : ∀ e, (∀ u, e ≠ .upload u) → P (.render e)) (hs : P (.call .state))
    (w : Workflow) (s : Setting) : Activity.Keeps P (polled w s) := by
  apply Activity.Keeps.mapLog
  intro c e _
  cases e with
  | attempt a => exact hr _ nofun
  | probe => exact hs

lemma followRestart_keeps (hr : ∀ e, (∀ u, e ≠ .upload u) → P (.render e))
    (hn : ∀ n, P (.notify n)) (hs : P (.call .state)) (w : Workflow) (s : Setting) :
    Activity.Keeps P (followRestart w s) := by
  rw [followRestart_eq]
  refine .bind (countDown_keeps hr _) fun _ => .ite ?_ (followPoll_keeps hr hn _)
  exact .bind (polled_keeps hr hs w s) (followPoll_keeps hr hn)

lemma seen_attempts (p : Reconnect.Policy) (ks : List Nat) :
    (ks.flatMap (Reconnect.attempted p)).filterMap (fun e => (Entry.ofReconnect e).request?) =
      List.replicate ks.length .state := by
  induction ks with
  | nil => rfl
  | cons k ks ih =>
    rw [List.flatMap_cons, List.filterMap_append, ih]
    rfl

lemma polled_requests (w : Workflow) (s : Setting) (c : Cancellation) :
    ∃ n ≤ w.reconnect.maxAttempts,
      seen Entry.request? (polled w s c).log = List.replicate n .state := by
  obtain ⟨n, hn, he⟩ := Reconnect.poll_entries w.reconnect s.device.probe c
  refine ⟨n, hn, ?_⟩
  rw [polled, Activity.seen_mapLog, Run.seen_log, he, seen_attempts, List.length_range']

lemma followRestart_requests (w : Workflow) (s : Setting) (c : Cancellation) :
    ∃ n ≤ w.reconnect.maxAttempts,
      seen Entry.request? (followRestart w s c).log = List.replicate n .state := by
  have hpoll : ∀ r, Activity.Keeps (fun e => Entry.request? e = none) (followPoll r) :=
    followPoll_keeps (fun _ _ => rfl) fun _ => rfl
  rw [followRestart_eq, Activity.seen_bind, (countDown_keeps (fun _ _ => rfl) _).seen_eq_nil,
    List.nil_append]
  cases (countDown w.countdown c).ending with
  | none => exact ⟨0, Nat.zero_le _, rfl⟩
  | some e =>
    obtain ⟨t, goesOn⟩ := e
    cases goesOn with
    | false =>
      refine ⟨0, Nat.zero_le _, ?_⟩
      simp [(hpoll _).seen_eq_nil]
    | true =>
      obtain ⟨n, hn, hs⟩ := polled_requests w s (c.after t (countDown w.countdown c).log.length)
      refine ⟨n, hn, ?_⟩
      simp [Activity.Keeps.seen_bind hpoll, hs]

end FirmwareUpdate.Workflow
