import FirmwareUpdate.Proofs.Reconnect.Course
import FirmwareUpdate.Proofs.Upload.Ending
import FirmwareUpdate.Proofs.Workflow.Requests

/-! What follows the success of a request. Nobody cancelling, an action announces the seconds, polls
the device as it would be polled alone, and tells what came of it. -/

namespace FirmwareUpdate.Workflow

open Firmware (validate_file)

variable {w : Workflow} {s : Setting}

def announcements (n : Nat) : List (Stamped Entry) :=
  (List.range n).map fun i => ⟨1000 * i, .render (.countdown (n - i))⟩

lemma announcements_succ (n : Nat) :
    announcements (n + 1) =
      ⟨0, .render (.countdown (n + 1))⟩ :: (announcements n).map (Stamped.later 1000) := by
  have ht : ∀ i, 1000 * (i + 1) = 1000 + 1000 * i := by
    intro i
    omega
  simp [announcements, List.range_succ_eq_map, Function.comp_def, Stamped.later, ht]

lemma countDown_never (n : Nat) :
    countDown n .never = ⟨announcements n, some (1000 * n, true)⟩ := by
  induction n with
  | zero => rfl
  | succ n ih =>
    rw [countDown, render, Activity.write_bind, Cancellation.never_after,
      Activity.await_bind_never, if_pos rfl, ih, announcements_succ]
    simp [Run.later, Run.after, Nat.mul_succ, Nat.add_comm]

def conclusion : Except Reconnect.Failure Nat → List Entry × Result
  | .ok attempts => ([.render (.online attempts), .notify .online], .ok (.reachable attempts))
  | .error (.timedOut attempts) =>
      ([.render (.timedOut attempts), .notify .tooSlow], .ok (.reloadManually attempts))
  | .error (.cancelled attempts) =>
      ([.notify .waitCancelled], .error (.poll (.cancelled attempts)))

lemma followPoll_prompt (r : Except Reconnect.Failure Nat) :
    Activity.Prompt (followPoll r) (conclusion r) := by
  cases r with
  | ok attempts => exact fun _ => rfl
  | error f => cases f <;> exact fun _ => rfl

/-- The log and the end of an action from its success on: a notice, the seconds, the poll of the
device at the end of them, what came of it, and the end of the busy time. -/
def aftermath (countdown : Nat) (b : Action) (n : Notice)
    (polling : List (Stamped Reconnect.Entry)) (t : Nat) (r : Except Reconnect.Failure Nat) :
    Run Entry Result where
  log := ⟨0, .notify n⟩ :: announcements countdown ++
    (polling.map (Stamped.map .ofReconnect)).map (Stamped.later (1000 * countdown)) ++
    ((conclusion r).1 ++ [Entry.busy b false]).map (⟨1000 * countdown + t, ·⟩)
  ending := some (1000 * countdown + t, (conclusion r).2)

lemma followRestart_never {polling : List (Stamped Reconnect.Entry)} {t : Nat}
    {r : Except Reconnect.Failure Nat}
    (h : Reconnect.poll w.reconnect s.device.probe .never = ⟨polling, some (t, r)⟩) :
    followRestart w s .never =
      ⟨announcements w.countdown ++
        (polling.map (Stamped.map .ofReconnect)).map (Stamped.later (1000 * w.countdown)) ++
        (conclusion r).1.map (⟨1000 * w.countdown + t, ·⟩),
        some (1000 * w.countdown + t, (conclusion r).2)⟩ := by
  have hp : polled w s .never = ⟨polling.map (Stamped.map .ofReconnect), some (t, r)⟩ := by
    rw [polled, Activity.mapLog, h]
  have hc := countDown_never w.countdown
  rw [followRestart_eq, Activity.never_bind_ends _ (congrArg Run.ending hc), hc, if_pos rfl,
    Activity.never_bind_ends _ (congrArg Run.ending hp), hp, followPoll_prompt r]
  simp [Run.after, Run.later, Stamped.later, Function.comp_def]

variable {polling : List (Stamped Reconnect.Entry)} {t : Nat} {r : Except Reconnect.Failure Nat}

lemma aftermath_eq (h : Reconnect.poll w.reconnect s.device.probe .never = ⟨polling, some (t, r)⟩)
    (b : Action) (n : Notice) :
    aftermath w.countdown b n polling t r =
      ⟨⟨0, .notify n⟩ :: (followRestart w s .never).log ++
          closing b (followRestart w s .never).ending,
        (followRestart w s .never).ending⟩ := by
  rw [followRestart_never h]
  simp [aftermath, closing]

variable {path : String} {v : Firmware.Validated w.firmware} {data : ByteArray} {u : Nat}

lemma uploadAndRestart_succeeds {f : Firmware.File} (hr : f.read s.changed = .ok data)
    (hu : (sent s ⟨f.name, data⟩ .never).ending = some (u, .ok ())) :
    uploadAndRestart w s f .never =
      (((followRestart w s .never).after [⟨0, .notify (.uploaded w.countdown)⟩]).later u).after
        ((sent s ⟨f.name, data⟩).mapLog .ofUpload .never).log := by
  have he : ((sent s ⟨f.name, data⟩).mapLog Entry.ofUpload .never).ending = some (u, .ok ()) := hu
  rw [uploadAndRestart_read hr, Activity.never_bind_ends _ he, followUpload, notify,
    Activity.write_bind, Cancellation.never_after]

lemma update_succeeds (h : Sends w s path .never v data)
    (hu : (sent s ⟨v.file.name, data⟩ .never).ending = some (u, .ok ()))
    (hp : Reconnect.poll w.reconnect s.device.probe .never = ⟨polling, some (t, r)⟩) :
    update w s path .never =
      ((aftermath w.countdown .update (.uploaded w.countdown) polling t r).later
        ((s.reply 0).delay + u)).after (uploadLog s v.file data .never) := by
  rw [update_accepted h.selected h.accepted, Cancellation.never_after,
    uploadAndRestart_succeeds h.read hu,
    aftermath_eq hp, uploadLog, Cancellation.never_after]
  simp [Run.after, Run.later, Stamped.later, closing_later, Function.comp_def, Nat.add_assoc]

lemma uploadLog_last (s : Setting) (f : Firmware.File) (data : ByteArray)
    (hu : (sent s ⟨f.name, data⟩ .never).ending = some (u, .ok ())) :
    (uploadLog s f data .never).getLast? =
      some ⟨(s.reply 0).delay + u, .render (.upload (.finished (.ok ())))⟩ := by
  have hl := Upload.drive_finishes ⟨f.name, data⟩ (s.device.upload 0 ⟨f.name, data⟩) u _ hu
  rw [uploadLog, Cancellation.never_after, List.getLast?_append, List.getLast?_map,
    Activity.mapLog, List.getLast?_map, sent, hl]
  rfl

lemma rollback_succeeds {d e : Nat} {info : DeviceInfo} {answer : RollbackVerdict}
    (hg : Grants s d info) (hd : s.device.rollback 0 = some (e, .ok answer))
    (hv : answer.success = true)
    (hp : Reconnect.poll w.reconnect s.device.probe .never = ⟨polling, some (t, r)⟩) :
    rollback w s .never =
      ((aftermath w.countdown .rollback .rollbackStarted polling t r).later
        (d + (s.reply 0).delay + e)).after
          (asking s d info ++ [⟨d + (s.reply 0).delay, .call .rollback⟩]) := by
  rw [rollback_granted hg, Cancellation.never_after, rollbackAndRestart_started hd hv,
    Cancellation.never_after, aftermath_eq hp]
  simp [Run.after, Run.later, Stamped.later, closing_later, Function.comp_def, Nat.add_assoc]

namespace Entry

def isAttempt : Entry → Bool
  | .render (.reconnecting _) => true
  | _ => false

def isEarly : Entry → Bool
  | .render (.upload _) | .render (.countdown _) => true
  | _ => false

end Entry

def Phased (log : List Entry) : Prop :=
  log.Pairwise fun d e => d.isAttempt = true → e.isEarly = false

lemma phased_append {k l : List Entry} (hk : ∀ e ∈ k, e.isAttempt = false)
    (hl : ∀ e ∈ l, e.isEarly = false) : Phased (k ++ l) := by
  refine List.pairwise_append.mpr ⟨?_, ?_, ?_⟩
  · apply List.pairwise_of_forall_mem_list
    intro d hd e _ ha
    rw [hk d hd] at ha
    cases ha
  · apply List.pairwise_of_forall_mem_list
    intro d _ e he _
    exact hl e he
  · intro d hd e he _
    exact hl e he

lemma aftermath_entries (countdown : Nat) (b : Action) (n : Notice) :
    (aftermath countdown b n polling t r).entries =
      (.notify n :: (announcements countdown).map (·.entry)) ++
        (polling.map (fun e => Entry.ofReconnect e.entry) ++ ((conclusion r).1 ++ [.busy b false])) := by
  simp [aftermath, Run.entries, Function.comp_def, Stamped.map]

lemma conclusion_not_early : ∀ e ∈ (conclusion r).1, e.isEarly = false := by
  cases r with
  | ok k => simp [conclusion, Entry.isEarly]
  | error f => cases f <;> simp [conclusion, Entry.isEarly]

lemma aftermath_phased {head : List (Stamped Entry)} (h : ∀ e ∈ head, e.entry.isAttempt = false)
    (countdown : Nat) (b : Action) (n : Notice) (u : Nat) :
    Phased (((aftermath countdown b n polling t r).later u).after head).entries := by
  rw [Run.entries_after, Run.entries_later, aftermath_entries, ← List.append_assoc]
  apply phased_append
  · intro e he
    rcases List.mem_append.mp he with he | he
    · obtain ⟨d, hd, rfl⟩ := List.mem_map.mp he
      exact h d hd
    · rcases List.mem_cons.mp he with rfl | he
      · rfl
      · simp only [announcements, List.map_map, List.mem_map] at he
        obtain ⟨i, _, rfl⟩ := he
        rfl
  · intro e he
    rcases List.mem_append.mp he with he | he
    · obtain ⟨d, _, rfl⟩ := List.mem_map.mp he
      cases d.entry <;> rfl
    · rcases List.mem_append.mp he with he | he
      · exact conclusion_not_early e he
      · obtain rfl := List.mem_singleton.mp he
        rfl

lemma opening_not_attempt {a : Confirmation.Action} {b : Action} {e : Stamped Entry}
    (h : e ∈ opening s a b) : e.entry.isAttempt = false := by
  simp only [opening, List.mem_cons, List.not_mem_nil, or_false] at h
  rcases h with rfl | rfl <;> rfl

lemma mem_uploadLog {f : Firmware.File} {c : Cancellation} {e : Stamped Entry}
    (h : e ∈ uploadLog s f data c) :
    e ∈ opening s (question f) .update ∨ ∃ k, e.entry = .ofUpload k := by
  rcases List.mem_append.mp h with h | h
  · exact .inl h
  · obtain ⟨d, hd, rfl⟩ := List.mem_map.mp h
    obtain ⟨k, _, rfl⟩ := List.mem_map.mp hd
    exact .inr ⟨k.entry, rfl⟩

lemma ofUpload_not_attempt (k : Upload.Entry) : (Entry.ofUpload k).isAttempt = false := by
  cases k <;> rfl

lemma uploadLog_not_attempt {f : Firmware.File} {c : Cancellation} {e : Stamped Entry}
    (h : e ∈ uploadLog s f data c) : e.entry.isAttempt = false := by
  rcases mem_uploadLog h with h | ⟨k, hk⟩
  · exact opening_not_attempt h
  · rw [hk]
    exact ofUpload_not_attempt k

lemma asking_not_attempt {d : Nat} {info : DeviceInfo} {e : Stamped Entry}
    (h : e ∈ asking s d info) : e.entry.isAttempt = false := by
  rcases List.mem_append.mp h with h | h
  · simp only [List.mem_cons, List.not_mem_nil, or_false] at h
    rcases h with rfl | rfl <;> rfl
  · obtain ⟨k, hk, rfl⟩ := List.mem_map.mp h
    rw [Stamped.later_entry]
    exact opening_not_attempt hk

def NotLate (r : Result) : Prop :=
  ∀ attempts, r ≠ .error (.poll (.timedOut attempts))

lemma followPoll_gives (r : Except Reconnect.Failure Nat) :
    Activity.Gives NotLate (followPoll r) := by
  intro c t a h
  rw [followPoll_prompt r] at h
  cases h
  intro attempts
  cases r with
  | ok k => simp [conclusion]
  | error f => cases f <;> simp [conclusion]

lemma followRestart_gives (w : Workflow) (s : Setting) :
    Activity.Gives NotLate (followRestart w s) := by
  rw [followRestart_eq]
  refine .next fun goesOn => ?_
  cases goesOn with
  | false => exact followPoll_gives (.error (.cancelled 0))
  | true => exact .next followPoll_gives

lemma busy_gives {Q : Result → Prop} {x : Activity Entry Result} (h : Activity.Gives Q x)
    (b : Action) : Activity.Gives Q (busy b x) :=
  .next fun _ => h.bind fun _ ha => .next fun _ => .pure ha

lemma confirmed_gives {x : Activity Entry Result} (h : Activity.Gives NotLate x)
    (a : Confirmation.Action) : Activity.Gives NotLate (confirmed s a x) := by
  refine .next fun accepts => ?_
  cases accepts with
  | false => exact .pure (by simp [NotLate])
  | true => exact h

lemma uploadAndRestart_gives (w : Workflow) (s : Setting) (f : Firmware.File) :
    Activity.Gives NotLate (uploadAndRestart w s f) := by
  cases h : f.read s.changed with
  | error e =>
    simp only [uploadAndRestart, h]
    exact .next fun _ => .pure (by simp [NotLate])
  | ok data =>
    rw [uploadAndRestart_read h]
    refine .next fun r => ?_
    cases r with
    | error e => exact .next fun _ => .next fun _ => .pure (by simp [NotLate])
    | ok r => exact .next fun _ => followRestart_gives w s

lemma rollbackAndRestart_gives (w : Workflow) (s : Setting) :
    Activity.Gives NotLate (rollbackAndRestart w s) := by
  refine .next fun _ => .next fun answer => ?_
  cases answer with
  | error causes => exact .next fun _ => .pure (by simp [NotLate])
  | ok v =>
    cases hv : v.success with
    | false =>
      simp only [hv]
      exact .next fun _ => .pure (by simp [NotLate])
    | true =>
      simp only [hv]
      exact .next fun _ => followRestart_gives w s

lemma update_gives (w : Workflow) (s : Setting) (path : String) :
    Activity.Gives NotLate (update w s path) := by
  cases hs : Firmware.select s.files path with
  | error e =>
    simp only [update, hs]
    exact .next fun _ => .pure (by simp [NotLate])
  | ok f =>
    cases hv : w.firmware.validate f with
    | error r =>
      simp only [update, hs, hv]
      exact .next fun _ => .pure (by simp [NotLate])
    | ok v =>
      rw [update_validated (v := v) (by rw [hs, validate_file hv])]
      exact confirmed_gives (busy_gives (uploadAndRestart_gives w s _) _) _

lemma rollback_gives (w : Workflow) (s : Setting) :
    Activity.Gives NotLate (rollback w s) := by
  have hi : Activity.Gives (fun r => ∀ f, r = .error f → ∃ reason, f = .device reason)
      (loadInfo s) := by
    intro c t r h
    rw [loadInfo_run] at h
    generalize s.device.info 0 = answer at h
    rcases answer with _ | ⟨d, causes | info⟩ <;> cases h
    · rintro f ⟨⟩
      exact ⟨_, rfl⟩
    · rintro f ⟨⟩
  rw [rollback_eq]
  refine hi.bind fun answer ha => ?_
  cases answer with
  | error f =>
    obtain ⟨reason, rfl⟩ := ha f rfl
    exact .pure (by simp [NotLate])
  | ok info =>
    cases hr : info.canRollback with
    | false =>
      simp only [followInfo, hr]
      exact .next fun _ => .pure (by simp [NotLate])
    | true =>
      simp only [followInfo, hr]
      exact confirmed_gives (busy_gives (rollbackAndRestart_gives w s) _) _

/-- From its success on, an action is a notice, the seconds, the poll as it goes alone, and what the
poll comes to. -/
theorem success_followed (w : Workflow) (s : Setting) :
    ∃ polling t r,
      (Reconnect.poll w.reconnect s.device.probe).run .never = ⟨polling, some (t, r)⟩ ∧
      (∃ n ≤ w.reconnect.maxAttempts,
        polling = (List.range' 1 n).flatMap (Reconnect.traces w.reconnect)) ∧
      Reconnect.Settled w.reconnect.maxAttempts r ∧
      (∀ path v data u, Sends w s path .never v data →
        ((sent s ⟨v.file.name, data⟩).run .never).ending = some (u, .ok ()) →
        (uploadLog s v.file data .never).getLast? =
          some ⟨(s.reply 0).delay + u, .render (.upload (.finished (.ok ())))⟩ ∧
        (update w s path).run .never =
          ((aftermath w.countdown .update (.uploaded w.countdown) polling t r).later
            ((s.reply 0).delay + u)).after (uploadLog s v.file data .never) ∧
        Phased ((update w s path).run .never).entries) ∧
      (∀ d e info answer, Grants s d info → s.device.rollback 0 = some (e, .ok answer) →
        answer.success = true →
        (rollback w s).run .never =
          ((aftermath w.countdown .rollback .rollbackStarted polling t r).later
            (d + (s.reply 0).delay + e)).after
              (asking s d info ++ [⟨d + (s.reply 0).delay, .call .rollback⟩]) ∧
        Phased ((rollback w s).run .never).entries) ∧
      ∀ path c t attempts,
        ((update w s path).run c).ending ≠ some (t, .error (.poll (.timedOut attempts))) ∧
        ((rollback w s).run c).ending ≠ some (t, .error (.poll (.timedOut attempts))) := by
  obtain ⟨n, hn, t, r, hp, hr⟩ := Reconnect.poll_course w.reconnect s.device.probe
  refine ⟨_, t, r, hp, ⟨n, hn, rfl⟩, hr, ?_, ?_, ?_⟩
  · intro path v data u h hu
    have hrun := update_succeeds h hu hp
    refine ⟨uploadLog_last s v.file data hu, hrun, ?_⟩
    rw [Activity.run, hrun]
    exact aftermath_phased (fun e he => uploadLog_not_attempt he) _ _ _ _
  · intro d e info answer hg hd hv
    have hrun := rollback_succeeds (w := w) hg hd hv hp
    refine ⟨hrun, ?_⟩
    rw [Activity.run, hrun]
    apply aftermath_phased
    intro e he
    rcases List.mem_append.mp he with he | he
    · exact asking_not_attempt he
    · obtain rfl := List.mem_singleton.mp he
      rfl
  · intro path c t attempts
    constructor
    · intro h
      exact update_gives w s path c t _ h attempts rfl
    · intro h
      exact rollback_gives w s c t _ h attempts rfl

def smoothUpdate : Setting where
  files := Files.empty.apply (.write "fw.bin" ⟨#[7, 7]⟩)
  device := {
    info := fun _ => none
    upload := fun _ _ => ⟨[.send 2, .sleep 700], .answered ⟨200, "\x7b\"success\":true\x7d"⟩⟩
    rollback := fun _ => none
    probe := fun n => .answer 100 (n ≠ 0) }
  reply _ := ⟨true, 300, []⟩

def twoBytes : Firmware.Validated standard.firmware where
  file := ⟨"fw.bin", 2, "fw.bin"⟩
  accepted := ⟨by decide, by decide⟩

theorem success_followed_smoothUpdate :
    Sends standard smoothUpdate "fw.bin" .never twoBytes ⟨#[7, 7]⟩ ∧
    (update standard smoothUpdate "fw.bin").run .never =
      ((aftermath 5 .update (.uploaded 5) ([1, 2].flatMap (Reconnect.traces .standard)) 1100
        (.ok 2)).later 1000).after (uploadLog smoothUpdate twoBytes.file ⟨#[7, 7]⟩ .never) := by
  have h : Sends standard smoothUpdate "fw.bin" .never twoBytes ⟨#[7, 7]⟩ := ⟨rfl, rfl, rfl, rfl⟩
  obtain ⟨polling, t, r, hp, _, _, hu, _⟩ := success_followed standard smoothUpdate
  have hr : (Reconnect.poll standard.reconnect smoothUpdate.device.probe).run .never =
      ⟨[1, 2].flatMap (Reconnect.traces .standard), some (1100, .ok 2)⟩ := rfl
  rw [hr] at hp
  cases hp
  exact ⟨h, (hu "fw.bin" twoBytes ⟨#[7, 7]⟩ 700 h (by decide +kernel)).2.1⟩

end FirmwareUpdate.Workflow
