import FirmwareUpdate.Proofs.Workflow.Following

/-! Updates that are cancelled. Up to the result of the upload a cancellation fails the upload; from
there to the end of the update it ends the wait for the device, with as many attempts as the update
has made; after that it changes nothing. -/

namespace FirmwareUpdate.Workflow

variable {w : Workflow} {s : Setting} {path : String} {v : Firmware.Validated w.firmware}
  {data : ByteArray} {f : Firmware.File} {image : Upload.Image} {c : Cancellation} {t u : Nat}

def uploadStopped : List Entry × Upload.Result :=
  (Upload.brokenOff.1.map .ofUpload, Upload.brokenOff.2)

def waitStopped (log : List Entry) : List Entry × Result :=
  conclusion (.error (.cancelled (log.countP Entry.isAttempt)))

lemma sent_stops (s : Setting) (image : Upload.Image) :
    Activity.Stops ((sent s image).mapLog Entry.ofUpload) fun _ => uploadStopped :=
  (Upload.drive_stops _ _).mapLog fun _ => rfl

lemma countDown_stops (n : Nat) : Activity.Stops (countDown n) fun _ => ([], false) := by
  induction n with
  | zero => exact .prompt (.pure true)
  | succ n ih => exact .prompt_bind (.write _) (.await_bind ih (.pure false))

lemma ofReconnect_isAttempt (e : Reconnect.Entry) :
    (Entry.ofReconnect e).isAttempt = e.isAttempt := by
  cases e <;> rfl

lemma polled_stops (w : Workflow) (s : Setting) :
    Activity.Stops (polled w s) fun log =>
      ([], .error (.cancelled (log.countP Entry.isAttempt))) := by
  refine (Reconnect.poll_stops _ _).mapLog fun log => ?_
  have hc : Entry.isAttempt ∘ Entry.ofReconnect = Reconnect.Entry.isAttempt :=
    funext ofReconnect_isAttempt
  simp [Reconnect.givenUp, List.countP_map, hc]

lemma waitStopped_append {k : List (Stamped Entry)} (h : ∀ e ∈ k, e.entry.isAttempt = false)
    (l : List Entry) : waitStopped (k.map (·.entry) ++ l) = waitStopped l := by
  have hk : (k.map (·.entry)).countP Entry.isAttempt = 0 := by
    apply List.countP_eq_zero.mpr
    intro e he
    obtain ⟨d, hd, rfl⟩ := List.mem_map.mp he
    simp [h d hd]
  rw [waitStopped, List.countP_append, hk, Nat.zero_add]
  rfl

lemma countDown_not_attempt (n : Nat) :
    ∀ e ∈ (countDown n .never).log, e.entry.isAttempt = false := by
  intro e he
  rw [countDown_never] at he
  obtain ⟨i, _, rfl⟩ := List.mem_map.mp he
  rfl

lemma waitStopped_countDown (n : Nat) (log : List Entry) :
    waitStopped ((countDown n .never).entries ++ log) = waitStopped log :=
  waitStopped_append (countDown_not_attempt n) log

lemma waitStopped_countDown_before (n t : Nat) :
    waitStopped ((countDown n .never).before t) = waitStopped [] := by
  rw [← List.append_nil (Run.before _ t)]
  apply waitStopped_append
  intro e he
  exact countDown_not_attempt n e (List.mem_of_mem_filter he)

lemma followRestart_stops (w : Workflow) (s : Setting) :
    Activity.Stops (followRestart w s) waitStopped := by
  rw [followRestart_eq]
  refine (countDown_stops w.countdown).bind ?_ ?_
  · intro e goesOn he
    rw [countDown_never] at he
    cases he
    simp only [waitStopped_countDown, if_true]
    refine (polled_stops w s).bind ?_ ?_
    · intro e r _
      exact .prompt (followPoll_prompt r)
    · intro t _ _
      exact ⟨_, followPoll_prompt _, rfl⟩
  · intro t _ _
    exact ⟨_, followPoll_prompt (.error (.cancelled 0)), waitStopped_countDown_before _ t⟩

lemma followUpload_prompt (w : Workflow) (s : Setting) (e : Upload.Failure) :
    Activity.Prompt (followUpload w s (.error e))
      ([.notify (.uploadFailed e), .notify .firmwareIntact], .error (.upload e)) :=
  fun _ => rfl

lemma followUpload_stops (w : Workflow) (s : Setting) (r : Upload.Result) :
    Activity.Stops (followUpload w s r) waitStopped := by
  cases r with
  | error e => exact .prompt (followUpload_prompt w s e)
  | ok r => exact .prompt_bind (.write _) (followRestart_stops w s)

lemma uploadAndRestart_failed (hr : f.read s.changed = .ok data) {e : Upload.Failure}
    (he : (sent s ⟨f.name, data⟩ c).ending = some (u, .error e)) :
    uploadAndRestart w s f c =
      ⟨((sent s ⟨f.name, data⟩).mapLog .ofUpload c).log ++
        [⟨u, .notify (.uploadFailed e)⟩, ⟨u, .notify .firmwareIntact⟩],
        some (u, .error (.upload e))⟩ := by
  have hm : ((sent s ⟨f.name, data⟩).mapLog Entry.ofUpload c).ending = some (u, .error e) := he
  rw [uploadAndRestart_read hr, Activity.bind_of_ends _ hm, followUpload_prompt]
  rfl

lemma update_failed (hs : Firmware.select s.files path = .ok v.file)
    (ha : (s.reply 0).accepts = true) (hr : v.file.read s.changed = .ok data) {e : Upload.Failure}
    (he : (sent s ⟨v.file.name, data⟩ (c.after (s.reply 0).delay 2)).ending =
      some (u, .error e)) :
    update w s path c =
      ⟨uploadLog s v.file data c ++
        [.notify (.uploadFailed e), .notify .firmwareIntact, .busy .update false].map
          (⟨(s.reply 0).delay + u, ·⟩),
        some ((s.reply 0).delay + u, .error (.upload e))⟩ := by
  rw [update_accepted hs ha, uploadAndRestart_failed hr he, uploadLog]
  simp [Run.later, Stamped.later, closing]

lemma earlier_opening (ht : (s.reply 0).delay < t) (a : Confirmation.Action) (b : Action) :
    earlier t (opening s a b) = opening s a b := by
  apply earlier_eq_self
  intro e he
  simp only [opening, List.mem_cons, List.not_mem_nil, or_false] at he
  rcases he with rfl | rfl <;> exact ht

lemma earlier_closing {α : Type} {r : Run Entry α} (ht : r.Lasts t) (b : Action) :
    earlier t (closing b r.ending) = [] := by
  apply earlier_eq_nil
  intro e he
  obtain ⟨⟨u, a⟩, hu, rfl⟩ := List.mem_map.mp he
  exact ht u a (Option.mem_toList.mp hu)

lemma update_ending (h : Sends w s path .never v data) :
    (update w s path .never).ending =
      ((uploadAndRestart w s v.file .never).later (s.reply 0).delay).ending := by
  rw [update_accepted h.selected h.accepted, Cancellation.never_after]

lemma update_lasts (h : Sends w s path .never v data) :
    (update w s path .never).Lasts t ↔
      (uploadAndRestart w s v.file .never).Lasts (t - (s.reply 0).delay) := by
  rw [← Run.lasts_later, Run.Lasts, update_ending h]
  rfl

variable {last : List Entry × Result}

lemma earlier_update (h : Sends w s path .never v data) (ht : (s.reply 0).delay < t)
    (hl : (update w s path .never).Lasts t) :
    earlier t (update w s path .never).log =
      opening s (question v.file) .update ++
        (earlier (t - (s.reply 0).delay) (uploadAndRestart w s v.file .never).log).map
          (Stamped.later (s.reply 0).delay) := by
  have hc := Run.lasts_later.mpr ((update_lasts h).mp hl)
  rw [update_accepted h.selected h.accepted, Cancellation.never_after, earlier_append,
    earlier_append, earlier_opening ht, earlier_closing hc, Run.log_later, earlier_later,
    List.append_nil]

lemma update_cut (h : Sends w s path .never v data) (ht : (s.reply 0).delay < t)
    (hl : (update w s path .never).Lasts t)
    (hc : uploadAndRestart w s v.file (.atInstant (t - (s.reply 0).delay)) =
      (uploadAndRestart w s v.file .never).cut (t - (s.reply 0).delay) last) :
    update w s path (.atInstant t) =
      (update w s path .never).cut t (last.1 ++ [.busy .update false], last.2) := by
  rw [update_accepted h.selected h.accepted (.atInstant t), Activity.atInstant_after, hc, Run.cut,
    Run.cut, earlier_update h ht hl]
  simp [Run.later, Stamped.later, closing, Function.comp_def, Nat.add_sub_cancel' ht.le]

def sending (s : Setting) (f : Firmware.File) (data : ByteArray) :
    Run Upload.Entry Upload.Result :=
  ((sent s ⟨f.name, data⟩).run .never).later (s.reply 0).delay

def uploadCancelled : List Entry :=
  [.render (.upload (.status .cancelled)), .render (.upload (.finished (.error .cancelled))),
    .notify (.uploadFailed .cancelled), .notify .firmwareIntact, .busy .update false]

def Entry.isSequel : Entry → Bool
  | .notify n => n.level = .success
  | .render (.countdown _) | .call .state => true
  | _ => false

lemma sent_cancelled (ht : (sent s image .never).Lasts t) :
    (sent s image (.atInstant t)).ending = some (t, .error .cancelled) := by
  cases t with
  | zero =>
    rw [sent, Upload.drive_due rfl]
  | succ t =>
    rw [sent, (Upload.drive_stops _ _).cut (t + 1) (Nat.succ_pos t) ht]
    rfl

lemma ofUpload_not_sequel (k : Upload.Entry) : (Entry.ofUpload k).isSequel = false := by
  cases k <;> rfl

lemma uploadLog_not_sequel {e : Stamped Entry} (h : e ∈ uploadLog s f data c) :
    e.entry.isSequel = false := by
  rcases mem_uploadLog h with h | ⟨k, hk⟩
  · simp only [opening, List.mem_cons, List.not_mem_nil, or_false] at h
    rcases h with rfl | rfl <;> rfl
  · rw [hk]
    exact ofUpload_not_sequel k

lemma update_due (hs : Firmware.select s.files path = .ok v.file) (ha : (s.reply 0).accepts = true)
    (hr : v.file.read s.changed = .ok data) (hd : (c.after (s.reply 0).delay 3).isDue = true) :
    update w s path c =
      ⟨opening s (question v.file) .update ++
        (.render (.upload (.status .uploading)) :: uploadCancelled).map (⟨(s.reply 0).delay, ·⟩),
        some ((s.reply 0).delay, .error (.upload .cancelled))⟩ := by
  have he : sent s ⟨v.file.name, data⟩ (c.after (s.reply 0).delay 2) = _ :=
    Upload.drive_due (by simpa using hd) _ _
  rw [update_failed hs ha hr (by rw [he]), uploadLog, Activity.mapLog, he]
  simp [uploadCancelled, Stamped.later, Stamped.map, Entry.ofUpload]

lemma Sends.early (h : Sends w s path .never v data) (ht : t ≤ (s.reply 0).delay) :
    update w s path (.atInstant t) =
      ⟨opening s (question v.file) .update ++
        (.render (.upload (.status .uploading)) :: uploadCancelled).map (⟨(s.reply 0).delay, ·⟩),
        some ((s.reply 0).delay, .error (.upload .cancelled))⟩ := by
  apply update_due h.selected h.accepted h.read
  rw [Activity.atInstant_after, Nat.sub_eq_zero_of_le ht]
  rfl

lemma Sends.uploading (h : Sends w s path .never v data) (ht : (s.reply 0).delay < t)
    (hl : (sending s v.file data).Lasts t) :
    update w s path (.atInstant t) =
      (update w s path .never).cut t (uploadCancelled, .error (.upload .cancelled)) := by
  have hx : ((sent s ⟨v.file.name, data⟩).mapLog Entry.ofUpload .never).Lasts
      (t - (s.reply 0).delay) := Run.lasts_later.mp hl
  have hu := uploadAndRestart_read (w := w) h.read
  have hr := (sent_stops s ⟨v.file.name, data⟩).bind_first (Nat.sub_pos_of_lt ht) hx
    (followUpload_prompt w s .cancelled)
  rw [← hu] at hr
  refine update_cut h ht ((update_lasts h).mpr ?_) hr
  rw [hu]
  exact Activity.Stops.bind_lasts _ hx

lemma Sends.quiet (h : Sends w s path .never v data) (hl : (sending s v.file data).Lasts t) :
    ∀ e ∈ (update w s path (.atInstant t)).entries, e.isSequel = false := by
  have he := sent_cancelled (Run.lasts_later.mp hl)
  rw [update_failed h.selected h.accepted h.read (c := .atInstant t) he]
  intro e hm
  rw [Run.entries, List.map_append, List.mem_append] at hm
  rcases hm with hm | hm
  · obtain ⟨d, hd, rfl⟩ := List.mem_map.mp hm
    exact uploadLog_not_sequel hd
  · simp only [List.map_cons, List.map_nil, List.mem_cons, List.not_mem_nil, or_false] at hm
    rcases hm with rfl | rfl | rfl <;> rfl

lemma sending_ends {e : Nat} {r : Upload.Result}
    (h : (sending s f data).ending = some (e, r)) :
    ∃ u, (sent s ⟨f.name, data⟩ .never).ending = some (u, r) ∧ e = (s.reply 0).delay + u := by
  obtain ⟨⟨u, r⟩, hu, he⟩ := Option.map_eq_some_iff.mp h
  cases he
  exact ⟨u, hu, rfl⟩

lemma waitStopped_update (h : Sends w s path .never v data) (ht : (s.reply 0).delay < t)
    (hl : (update w s path .never).Lasts t) :
    waitStopped ((update w s path .never).before t) =
      waitStopped ((uploadAndRestart w s v.file .never).before (t - (s.reply 0).delay)) := by
  rw [Run.before, earlier_update h ht hl, List.map_append, entries_later_map]
  exact waitStopped_append (fun e he => opening_not_attempt he) _

lemma waitStopped_sent {r : Upload.Result}
    (hu : (sent s ⟨f.name, data⟩ .never).ending = some (u, r)) (hr : f.read s.changed = .ok data)
    (ht : u < t) :
    waitStopped ((uploadAndRestart w s f .never).before t) =
      waitStopped ((followUpload w s r .never).before (t - u)) := by
  rw [uploadAndRestart_read hr,
    (sent_stops s ⟨f.name, data⟩).before_bind_second (followUpload w s) (a := r) hu ht]
  apply waitStopped_append
  intro e he
  obtain ⟨k, _, rfl⟩ := List.mem_map.mp he
  exact ofUpload_not_attempt k.entry

lemma Sends.waiting (h : Sends w s path .never v data) (hs : ¬ (sending s v.file data).Lasts t)
    (hl : (update w s path .never).Lasts t) :
    update w s path (.atInstant t) =
      (update w s path .never).cut t ([.notify .waitCancelled, .busy .update false],
        .error (.poll (.cancelled (((update w s path .never).before t).countP Entry.isAttempt)))) := by
  obtain ⟨_, r, he, hlt⟩ := Run.not_lasts.mp hs
  obtain ⟨u, hu, rfl⟩ := sending_ends he
  have ht : (s.reply 0).delay < t := (Nat.le_add_right _ u).trans_lt hlt
  have hut : u < t - (s.reply 0).delay := by omega
  have hU := (update_lasts h).mp hl
  -- A failed upload ends the update at once, so either result leaves only the wait to be cut.
  have hr : uploadAndRestart w s v.file (.atInstant (t - (s.reply 0).delay)) =
      (uploadAndRestart w s v.file .never).cut (t - (s.reply 0).delay)
        (waitStopped ((followUpload w s r .never).before (t - (s.reply 0).delay - u))) := by
    rw [uploadAndRestart_read h.read] at hU ⊢
    exact (sent_stops s _).bind_second (a := r) hu (followUpload_stops w s r) hut hU
  rw [update_cut h ht hl hr, ← waitStopped_sent hu h.read hut, ← waitStopped_update h ht hl]
  rfl

lemma Sends.unnoticed (h : Sends w s path .never v data) (hl : ¬ (update w s path .never).Lasts t) :
    update w s path (.atInstant t) = update w s path .never := by
  rw [update_lasts h] at hl
  obtain ⟨u, r, hu, hlt⟩ := Run.not_lasts.mp hl
  have hr : uploadAndRestart w s v.file (.atInstant (t - (s.reply 0).delay)) =
      uploadAndRestart w s v.file .never := by
    rw [uploadAndRestart_read h.read] at hu ⊢
    exact (sent_stops s _).bind_late (fun _ r _ => followUpload_stops w s r) hu hlt
  rw [update_accepted h.selected h.accepted (.atInstant t), Activity.atInstant_after, hr,
    update_accepted h.selected h.accepted .never, Cancellation.never_after]

lemma aftermath_attempt {countdown : Nat} {b : Action} {n : Notice}
    {polling : List (Stamped Reconnect.Entry)} {r : Except Reconnect.Failure Nat}
    {e : Stamped Entry} (he : e ∈ (aftermath countdown b n polling t r).log)
    (ha : e.entry.isAttempt = true) : 1000 * countdown ≤ e.instant := by
  simp only [aftermath, List.mem_append, List.mem_cons] at he
  rcases he with ((rfl | he) | he) | he
  · cases ha
  · obtain ⟨i, _, rfl⟩ := List.mem_map.mp he
    cases ha
  · obtain ⟨d, _, rfl⟩ := List.mem_map.mp he
    exact Nat.le_add_right _ d.instant
  · obtain ⟨d, _, rfl⟩ := List.mem_map.mp he
    exact Nat.le_add_right _ t

lemma Sends.counting (h : Sends w s path .never v data)
    (hu : (sending s v.file data).ending = some (u, .ok ())) (ht : t ≤ u + 1000 * w.countdown) :
    ((update w s path .never).before t).countP Entry.isAttempt = 0 := by
  obtain ⟨u, hs, rfl⟩ := sending_ends hu
  obtain ⟨_, _, _, _, hp, _⟩ := Reconnect.poll_course w.reconnect s.device.probe
  apply List.countP_eq_zero.mpr
  intro e he ha
  obtain ⟨d, hd, rfl⟩ := List.mem_map.mp he
  obtain ⟨hd, hlt⟩ := List.mem_filter.mp hd
  rw [update_succeeds h hs hp, Run.log_after, Run.log_later, List.mem_append] at hd
  rcases hd with hd | hd
  · rw [uploadLog_not_attempt hd] at ha
    cases ha
  · obtain ⟨k, hk, rfl⟩ := List.mem_map.mp hd
    have hi := aftermath_attempt hk ha
    have hlt : (s.reply 0).delay + u + k.instant < t := of_decide_eq_true hlt
    omega

/-- How an update goes that is cancelled at an instant, beside the same update left alone. -/
structure CutShort (w : Workflow) (s : Setting) (path : String)
    (v : Firmware.Validated w.firmware) (data : ByteArray) : Prop where
  stalled : (sending s v.file data).ending = none → ((update w s path).run .never).ending = none
  failed : ∀ u e, (sending s v.file data).ending = some (u, .error e) →
    ((update w s path).run .never).ending = some (u, .error (.upload e))
  followed : ∀ u, (sending s v.file data).ending = some (u, .ok ()) →
    ∃ e r, ((update w s path).run .never).ending = some (e, r) ∧ u ≤ e
  early : ∀ t ≤ (s.reply 0).delay, (update w s path).run (.atInstant t) =
    ⟨opening s (question v.file) .update ++
      (.render (.upload (.status .uploading)) :: uploadCancelled).map (⟨(s.reply 0).delay, ·⟩),
      some ((s.reply 0).delay, .error (.upload .cancelled))⟩
  uploading : ∀ t, (s.reply 0).delay < t → (sending s v.file data).Lasts t →
    (update w s path).run (.atInstant t) =
      ((update w s path).run .never).cut t (uploadCancelled, .error (.upload .cancelled))
  quiet : ∀ t, (sending s v.file data).Lasts t →
    ∀ e ∈ ((update w s path).run (.atInstant t)).entries, e.isSequel = false
  waiting : ∀ t, ¬ (sending s v.file data).Lasts t → ((update w s path).run .never).Lasts t →
    (update w s path).run (.atInstant t) =
      ((update w s path).run .never).cut t ([.notify .waitCancelled, .busy .update false],
        .error (.poll (.cancelled
          ((((update w s path).run .never).before t).countP Entry.isAttempt))))
  counting : ∀ u, (sending s v.file data).ending = some (u, .ok ()) →
    ∀ t ≤ u + 1000 * w.countdown,
      (((update w s path).run .never).before t).countP Entry.isAttempt = 0
  unnoticed : ∀ t, ¬ ((update w s path).run .never).Lasts t →
    (update w s path).run (.atInstant t) = (update w s path).run .never

lemma Sends.failed (h : Sends w s path .never v data) {e : Upload.Failure}
    (he : (sending s v.file data).ending = some (u, .error e)) :
    (update w s path .never).ending = some (u, .error (.upload e)) := by
  obtain ⟨u, hu, rfl⟩ := sending_ends he
  rw [update_failed h.selected h.accepted h.read (c := .never) hu]

lemma Sends.followed (h : Sends w s path .never v data)
    (he : (sending s v.file data).ending = some (u, .ok ())) :
    ∃ e r, (update w s path .never).ending = some (e, r) ∧ u ≤ e := by
  obtain ⟨u, hu, rfl⟩ := sending_ends he
  obtain ⟨_, _, t, r, hp, _⟩ := Reconnect.poll_course w.reconnect s.device.probe
  rw [update_succeeds h hu hp]
  exact ⟨_, _, rfl, Nat.le_add_right _ _⟩

lemma Sends.stalled (h : Sends w s path .never v data)
    (he : (sending s v.file data).ending = none) : (update w s path .never).ending = none := by
  have hs : ((sent s ⟨v.file.name, data⟩).mapLog Entry.ofUpload .never).ending = none :=
    Option.map_eq_none_iff.mp he
  rw [update_ending h, uploadAndRestart_read h.read, Activity.bind_of_stops _ hs]
  rfl

/-- Cancelling an update at an instant only cuts it short. -/
theorem update_cut_short (w : Workflow) (s : Setting) (path : String) :
    ∀ v : Firmware.Validated w.firmware, Firmware.select s.files path = .ok v.file →
      ((s.reply 0).accepts = false → ∀ c, (update w s path).run c =
        ⟨[⟨(s.reply 0).delay, .dialog (question v.file).request false⟩],
          some ((s.reply 0).delay, .ok .declined)⟩) ∧
      ∀ data, (s.reply 0).accepts = true → v.file.read s.changed = .ok data →
        CutShort w s path v data := by
  intro v hs
  constructor
  · intro ha c
    rw [Activity.run, update_validated hs]
    exact confirmed_declined ha _ _ c
  · intro data ha hr
    have h : Sends w s path .never v data := ⟨hs, ha, hr, rfl⟩
    exact {
      stalled := h.stalled
      failed := fun _ _ => h.failed
      followed := fun _ => h.followed
      early := fun _ => h.early
      uploading := fun _ => h.uploading
      quiet := fun _ => h.quiet
      waiting := fun _ => h.waiting
      counting := fun _ hu _ => h.counting hu
      unnoticed := fun _ => h.unnoticed }

theorem update_cut_short_smoothUpdate :
    Firmware.select smoothUpdate.files "fw.bin" = .ok twoBytes.file ∧
    ((update standard smoothUpdate "fw.bin").run .before).ending =
      some (300, .error (.upload .cancelled)) ∧
    ((update standard smoothUpdate "fw.bin").run (.atInstant 1000)).ending =
      some (1000, .error (.upload .cancelled)) ∧
    ((update standard smoothUpdate "fw.bin").run (.atInstant 6000)).ending =
      some (6000, .error (.poll (.cancelled 0))) ∧
    ((update standard smoothUpdate "fw.bin").run (.atInstant 7100)).ending =
      some (7100, .error (.poll (.cancelled 2))) ∧
    (update standard smoothUpdate "fw.bin").run (.atInstant 7101) =
      (update standard smoothUpdate "fw.bin").run .never := by
  have hs : Firmware.select smoothUpdate.files "fw.bin" = .ok twoBytes.file := rfl
  have h := (update_cut_short standard smoothUpdate "fw.bin" twoBytes hs).2 ⟨#[7, 7]⟩ rfl rfl
  have hu : (sending smoothUpdate twoBytes.file ⟨#[7, 7]⟩).ending = some (1000, .ok ()) := by
    decide +kernel
  have he : ((update standard smoothUpdate "fw.bin").run .never).ending.map Prod.fst =
      some 7100 := by
    decide +kernel
  have hn : (((update standard smoothUpdate "fw.bin").run .never).before 7100).countP
      Entry.isAttempt = 2 := by
    decide +kernel
  obtain ⟨⟨_, r⟩, hw, rfl⟩ := Option.map_eq_some_iff.mp he
  refine ⟨hs, ?_, ?_, ?_, ?_, ?_⟩
  · rw [show Cancellation.before = .atInstant 0 from rfl, h.early 0 (Nat.zero_le _)]
    rfl
  · rw [h.uploading 1000 (by decide) ((Run.lasts_iff hu).mpr le_rfl)]
    rfl
  · rw [h.waiting 6000 (by simp [Run.lasts_iff hu]) ((Run.lasts_iff hw).mpr (by simp)),
      h.counting 1000 hu 6000 le_rfl]
    rfl
  · rw [h.waiting 7100 (by simp [Run.lasts_iff hu]) ((Run.lasts_iff hw).mpr le_rfl), hn]
    rfl
  · exact h.unnoticed 7101 (by simp [Run.lasts_iff hw])

end FirmwareUpdate.Workflow
