import FirmwareUpdate.Proofs.Upload.Drive
import FirmwareUpdate.Proofs.Workflow.Restart

/-! What an update sends. An update comes to its upload under one condition only, and then its log
tells which file the user was asked about, which bytes the device got, and what was asked of it
afterwards. -/

namespace FirmwareUpdate.Workflow

open Firmware (select_path read_ok)

/-- The token is looked at for the first time after the dialog, the busy mark and an event. -/
structure Sends (w : Workflow) (s : Setting) (path : String) (c : Cancellation)
    (v : Firmware.Validated w.firmware) (data : ByteArray) : Prop where
  selected : Firmware.select s.files path = .ok v.file
  accepted : (s.reply 0).accepts = true
  read : v.file.read s.changed = .ok data
  going : (c.after (s.reply 0).delay 3).isDue = false

variable {α : Type} {w : Workflow} {s : Setting} {path : String} {c : Cancellation}
  {v : Firmware.Validated w.firmware} {data : ByteArray}

lemma ofUpload_request {e : Upload.Entry} (h : e.isReport) : (Entry.ofUpload e).request? = none := by
  cases e with
  | started image => cases h
  | delivered => rfl
  | event e => rfl

lemma ofUpload_answer (e : Upload.Entry) : (Entry.ofUpload e).answer? = none := by
  cases e <;> rfl

lemma followUpload_keeps {P : Entry → Prop}
    (hr : ∀ e, (∀ u, e ≠ .upload u) → P (.render e)) (hn : ∀ n, P (.notify n))
    (hs : P (.call .state)) (r : Upload.Result) : Activity.Keeps P (followUpload w s r) := by
  cases r with
  | error e => exact .bind (.write (hn _)) fun _ => .bind (.write (hn _)) fun _ => .pure _
  | ok u => exact .bind (.write (hn _)) fun _ => followRestart_keeps hr hn hs w s

lemma followUpload_failed (e : Upload.Failure) :
    Activity.Keeps (fun e => e.request? = none) (followUpload w s (.error e)) :=
  .bind (.write rfl) fun _ => .bind (.write rfl) fun _ => .pure _

lemma followUpload_sent (w : Workflow) (s : Setting) (c : Cancellation) :
    ∃ n ≤ w.reconnect.maxAttempts,
      seen Entry.request? (followUpload w s (.ok ()) c).log = List.replicate n .state := by
  obtain ⟨n, hn, hs⟩ := followRestart_requests w s (c.after 0 1)
  refine ⟨n, hn, ?_⟩
  rw [followUpload, notify, Activity.write_bind]
  simpa [Entry.request?] using hs

@[simp] lemma closing_requests (b : Action) (ending : Option (Nat × α)) :
    seen Entry.request? (closing b ending) = [] := by
  cases ending <;> rfl

@[simp] lemma closing_answers (b : Action) (ending : Option (Nat × α)) :
    seen Entry.answer? (closing b ending) = [] := by
  cases ending <;> rfl

lemma sent_requests (s : Setting) (image : Upload.Image) (c : Cancellation) :
    seen (fun e => (Entry.ofUpload e).request?) (sent s image c).log =
      if (c.after 0 1).isDue then [] else [.upload image] := by
  cases h : (c.after 0 1).isDue with
  | true =>
    rw [sent, Upload.drive_due h]
    rfl
  | false =>
    have hp : seen (fun e => (Entry.ofUpload e).request?)
        (Upload.proceed image.data.size (s.device.upload 0 image).ending
          (s.device.upload 0 image).steps ⟨Upload.begun image, [], false, 0⟩ (c.after 0 2)).log = [] :=
      ((Upload.proceed_keeps _ _ _ _).mono fun _ => ofUpload_request).seen_eq_nil _
    rw [sent, Upload.drive_going h, Run.log_after, seen_append, hp]
    rfl

lemma uploadAndRestart_requests (w : Workflow) {f : Firmware.File}
    (h : f.read s.changed = .ok data) (c : Cancellation) :
    ∃ n ≤ w.reconnect.maxAttempts,
      (seen Entry.request? (uploadAndRestart w s f c).log =
        if (c.after 0 1).isDue then [] else .upload ⟨f.name, data⟩ :: List.replicate n .state) ∧
      (n = 0 ∨ ∃ u, (sent s ⟨f.name, data⟩ c).ending = some (u, .ok ())) := by
  have he : ((sent s ⟨f.name, data⟩).mapLog Entry.ofUpload c).ending =
      (sent s ⟨f.name, data⟩ c).ending := rfl
  rw [uploadAndRestart_read h, Activity.seen_bind, Activity.seen_mapLog, sent_requests, he]
  cases hd : (c.after 0 1).isDue with
  | true =>
    refine ⟨0, Nat.zero_le _, ?_, .inl rfl⟩
    simp [sent, Upload.drive_due hd, (followUpload_failed _).seen_eq_nil]
  | false =>
    cases hr : (sent s ⟨f.name, data⟩ c).ending with
    | none => exact ⟨0, Nat.zero_le _, by simp, .inl rfl⟩
    | some e =>
      obtain ⟨u, r⟩ := e
      cases r with
      | error e =>
        refine ⟨0, Nat.zero_le _, ?_, .inl rfl⟩
        simp [(followUpload_failed e).seen_eq_nil]
      | ok r =>
        obtain ⟨n, hn, hs⟩ := followUpload_sent w s
          (c.after u ((sent s ⟨f.name, data⟩).mapLog Entry.ofUpload c).log.length)
        refine ⟨n, hn, ?_, .inr ⟨u, rfl⟩⟩
        simp [hs]

lemma update_accepted (hs : Firmware.select s.files path = .ok v.file)
    (ha : (s.reply 0).accepts = true) (c : Cancellation) :
    let r := (uploadAndRestart w s v.file (c.after (s.reply 0).delay 2)).later (s.reply 0).delay
    update w s path c =
      ⟨opening s (question v.file) .update ++ r.log ++ closing .update r.ending, r.ending⟩ := by
  rw [update_validated hs]
  exact confirmed_accepted ha _ _ _ c

lemma update_unread {e : Firmware.AccessError} (hs : Firmware.select s.files path = .ok v.file)
    (ha : (s.reply 0).accepts = true) (hr : v.file.read s.changed = .error e) (c : Cancellation) :
    update w s path c =
      ⟨opening s (question v.file) .update ++
        [⟨(s.reply 0).delay, .notify (.fileUnreadable (.fileAccess e.message))⟩,
          ⟨(s.reply 0).delay, .busy .update false⟩],
        some ((s.reply 0).delay, .error (.fileAccess e.message))⟩ := by
  rw [update_accepted hs ha, uploadAndRestart_unread hr]
  rfl

lemma Sends.requests (h : Sends w s path c v data) :
    ∃ n ≤ w.reconnect.maxAttempts,
      seen Entry.request? (update w s path c).log =
        .upload ⟨v.file.name, data⟩ :: List.replicate n .state ∧
      (n = 0 ∨ ∃ u, (sent s ⟨v.file.name, data⟩ (c.after (s.reply 0).delay 2)).ending =
        some (u, .ok ())) := by
  obtain ⟨n, hn, hu, hs⟩ := uploadAndRestart_requests w h.read (c.after (s.reply 0).delay 2)
  rw [Cancellation.after_after, Nat.add_zero, h.going] at hu
  refine ⟨n, hn, ?_, hs⟩
  rw [update_accepted h.selected h.accepted]
  simp [hu, opening, Entry.request?]

lemma update_idle (h : ∀ v data, ¬ Sends w s path c v data) :
    seen Entry.request? (update w s path c).log = [] := by
  rcases update_cases w s path with ⟨v, hs⟩ | ⟨_, n, e, hr⟩
  · cases ha : (s.reply 0).accepts with
    | false =>
      rw [update_validated hs, confirmed_declined ha]
      rfl
    | true =>
      cases hr : v.file.read s.changed with
      | error e =>
        rw [update_unread hs ha hr]
        rfl
      | ok data =>
        have hd : (c.after (s.reply 0).delay 3).isDue = true :=
          Bool.eq_true_of_not_eq_false fun hd => h v data ⟨hs, ha, hr, hd⟩
        obtain ⟨n, _, hu, _⟩ := uploadAndRestart_requests w hr (c.after (s.reply 0).delay 2)
        rw [Cancellation.after_after, Nat.add_zero, hd] at hu
        rw [update_accepted hs ha]
        simp [hu, opening, Entry.request?]
  · rw [hr]
    rfl

lemma uploadAndRestart_answers {f : Firmware.File} (h : f.read s.changed = .ok data)
    (c : Cancellation) : seen Entry.answer? (uploadAndRestart w s f c).log = [] := by
  have hf : ∀ r, Activity.Keeps (fun e => e.answer? = none) (followUpload w s r) :=
    followUpload_keeps (fun _ _ => rfl) (fun _ => rfl) rfl
  rw [uploadAndRestart_read h, Activity.Keeps.seen_bind hf, Activity.seen_mapLog, seen_eq_nil]
  exact fun e _ => ofUpload_answer e.entry

lemma Sends.answers (h : Sends w s path c v data) :
    seen Entry.answer? (update w s path c).log = [((question v.file).request, true)] := by
  rw [update_accepted h.selected h.accepted]
  simp [uploadAndRestart_answers h.read, opening, Entry.answer?]

def uploadLog (s : Setting) (f : Firmware.File) (data : ByteArray) (c : Cancellation) :
    List (Stamped Entry) :=
  opening s (question f) .update ++
    ((sent s ⟨f.name, data⟩).mapLog .ofUpload (c.after (s.reply 0).delay 2)).log.map
      (Stamped.later (s.reply 0).delay)

lemma Sends.uploadLog_prefix (h : Sends w s path c v data) :
    uploadLog s v.file data c <+: (update w s path c).log := by
  rw [update_accepted h.selected h.accepted, List.append_assoc, uploadAndRestart_read h.read,
    uploadLog, List.prefix_append_right_inj]
  exact ((Activity.log_prefix_bind _ _ _).map _).trans (List.prefix_append _ _)

lemma Sends.uploadLog_requests (h : Sends w s path c v data) :
    seen Entry.request? (uploadLog s v.file data c) = [.upload ⟨v.file.name, data⟩] := by
  rw [uploadLog, seen_append, seen_later, Activity.seen_mapLog, sent_requests,
    Cancellation.after_after, Nat.add_zero, h.going]
  rfl

lemma Sends.log (h : Sends w s path c v data) :
    ∃ rest, (update w s path c).log =
      opening s (question v.file) .update ++
        [⟨(s.reply 0).delay, .render (.upload (.status .uploading))⟩] ++
        ⟨(s.reply 0).delay, .call (.upload ⟨v.file.name, data⟩)⟩ :: rest := by
  have hg : ((c.after (s.reply 0).delay 2).after 0 1).isDue = false := by simpa using h.going
  obtain ⟨rest, hr⟩ := h.uploadLog_prefix
  rw [← hr, uploadLog, Activity.mapLog, sent, Upload.drive_going hg, List.append_assoc]
  exact ⟨_, rfl⟩

lemma exists_sends {k : Call} (h : k ∈ seen Entry.request? (update w s path c).log) :
    ∃ v data, Sends w s path c v data := by
  by_contra hn
  rw [update_idle fun v data hv => hn ⟨v, data, hv⟩] at h
  cases h

lemma Sends.split (h : Sends w s path c v data) {before after : List (Stamped Entry)} {t : Nat}
    {image : Upload.Image}
    (hl : (update w s path c).log = before ++ ⟨t, .call (.upload image)⟩ :: after) :
    before = opening s (question v.file) .update ++
        [⟨(s.reply 0).delay, .render (.upload (.status .uploading))⟩] ∧
      t = (s.reply 0).delay ∧ image = ⟨v.file.name, data⟩ ∧ seen Entry.answer? after = [] := by
  obtain ⟨rest, hr⟩ := h.log
  obtain ⟨n, _, hq, _⟩ := h.requests
  have ha := h.answers
  rw [hr] at hl hq ha
  have hrest : seen Entry.request? rest = List.replicate n .state := by
    simpa [opening, Entry.request?] using hq
  have hnot : ⟨t, .call (.upload image)⟩ ∉ rest := by
    intro hm
    have hu : Call.upload image ∈ seen Entry.request? rest := mem_seen.mpr ⟨_, hm, rfl⟩
    rw [hrest] at hu
    simp at hu
  obtain ⟨rfl, he, rfl⟩ := (List.append_cons_inj_of_notMem (by simp [opening]) hnot).mp hl
  cases he
  refine ⟨rfl, rfl, rfl, ?_⟩
  simpa [opening, Entry.answer?] using ha

theorem update_sends_confirmed (w : Workflow) (s : Setting) (path : String) (c : Cancellation) :
    (∀ before t image after,
      ((update w s path).run c).log = before ++ ⟨t, .call (.upload image)⟩ :: after →
      ∃ v : Firmware.Validated w.firmware, Firmware.select s.files path = .ok v.file ∧
        seen Entry.answer? before =
          [((Confirmation.Action.update v.file.name v.file.size).request, true)] ∧
        seen Entry.answer? after = [] ∧
        image.name = v.file.name ∧ s.changed.read path = .ok image.data ∧
        image.data.size = v.file.size ∧ w.firmware.extension.toList <:+ image.name.toList ∧
        image.data.size ≤ w.firmware.greatest) ∧
    ∀ v : Firmware.Validated w.firmware, Firmware.select s.files path = .ok v.file →
      (s.reply 0).accepts = true →
      (∀ content, s.changed.read path = .ok content → content.size ≠ v.file.size) →
      ∃ reason, (update w s path).run c =
        ⟨[⟨(s.reply 0).delay,
              .dialog (Confirmation.Action.update v.file.name v.file.size).request true⟩,
            ⟨(s.reply 0).delay, .busy .update true⟩,
            ⟨(s.reply 0).delay, .notify (.fileUnreadable (.fileAccess reason))⟩,
            ⟨(s.reply 0).delay, .busy .update false⟩],
          some ((s.reply 0).delay, .error (.fileAccess reason))⟩ := by
  constructor
  · intro before t image after hl
    obtain ⟨v, data, h⟩ := exists_sends (requested hl rfl)
    obtain ⟨rfl, _, rfl, ha⟩ := h.split hl
    obtain ⟨hr, hd⟩ := read_ok.mp h.read
    rw [select_path h.selected] at hr
    refine ⟨v, h.selected, rfl, ha, rfl, hr, hd, v.accepted.1, ?_⟩
    exact hd.trans_le v.accepted.2
  · intro v hs ha hn
    cases hr : v.file.read s.changed with
    | ok data =>
      obtain ⟨hr, hd⟩ := read_ok.mp hr
      rw [select_path hs] at hr
      exact absurd hd (hn data hr)
    | error e => exact ⟨e.message, update_unread hs ha hr c⟩

end FirmwareUpdate.Workflow
