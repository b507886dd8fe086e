import FirmwareUpdate.Proofs.Workflow.Sending

/-! What the actions ask of the device. The requests of an action form a word of a fixed language, and
each one has its reason in the log before it: the user's consent, the device's own answer, or the
success of the request that the device restarts for. -/

namespace FirmwareUpdate.Workflow

open Firmware (validate_validated)

variable {α : Type} {w : Workflow} {s : Setting} {path : String} {c : Cancellation}
  {v : Firmware.Validated w.firmware} {data : ByteArray}

lemma prefix_of_split {k before after : List α} {a : α} (hk : k <+: before ++ a :: after)
    (ha : a ∉ k) : k <+: before := by
  rcases List.prefix_or_prefix_of_prefix hk (List.prefix_append before (a :: after)) with h | h
  · exact h
  · obtain ⟨l, rfl⟩ := h
    rw [List.prefix_append_right_inj] at hk
    cases l with
    | nil => simp
    | cons b l =>
      obtain ⟨rfl, _⟩ := List.cons_prefix_cons.mp hk
      exact absurd (List.mem_append_right _ List.mem_cons_self) ha

lemma loadInfo_requests (s : Setting) (c : Cancellation) :
    seen Entry.request? (loadInfo s c).log = [.info] := by
  rw [loadInfo_run]
  rcases s.device.info 0 with _ | ⟨d, causes | info⟩ <;> rfl

structure UpdateRequests (w : Workflow) (s : Setting) (path : String) (c : Cancellation) : Prop where
  word : seen Entry.request? ((update w s path).run c).log = [] ∨
    ∃ image, ∃ n ≤ w.reconnect.maxAttempts,
      seen Entry.request? ((update w s path).run c).log =
        .upload image :: List.replicate n .state
  uploads : (∃ image, .upload image ∈ seen Entry.request? ((update w s path).run c).log) ↔
    ∃ v data, Sends w s path c v data
  consent : ∀ before t image after,
    ((update w s path).run c).log = before ++ ⟨t, .call (.upload image)⟩ :: after →
    ∃ file v, Firmware.select s.files path = .ok file ∧ w.firmware.validate file = .ok v ∧
      seen Entry.answer? before = [((Confirmation.Action.update file.name file.size).request, true)] ∧
      seen Entry.answer? after = [] ∧ file.read s.changed = .ok image.data ∧
      (c.after t before.length).isDue = false
  success : ∀ before t after,
    ((update w s path).run c).log = before ++ ⟨t, .call .state⟩ :: after →
    ∃ v data u, Sends w s path c v data ∧
      ((sent s ⟨v.file.name, data⟩).run (c.after (s.reply 0).delay 2)).ending = some (u, .ok ()) ∧
      uploadLog s v.file data c <+: before

lemma Sends.state_split (h : Sends w s path c v data) {before after : List (Stamped Entry)}
    {t : Nat} (hl : (update w s path c).log = before ++ ⟨t, .call .state⟩ :: after) :
    ∃ u, (sent s ⟨v.file.name, data⟩ (c.after (s.reply 0).delay 2)).ending = some (u, .ok ()) ∧
      uploadLog s v.file data c <+: before := by
  obtain ⟨n, _, hq, hn | ⟨u, hu⟩⟩ := h.requests
  · have hm := requested hl rfl
    rw [hq, hn] at hm
    simp at hm
  · refine ⟨u, hu, prefix_of_split (hl ▸ h.uploadLog_prefix) ?_⟩
    intro hm
    have hs : Call.state ∈ seen Entry.request? (uploadLog s v.file data c) :=
      mem_seen.mpr ⟨_, hm, rfl⟩
    rw [h.uploadLog_requests] at hs
    simp at hs

lemma updateRequests (w : Workflow) (s : Setting) (path : String) (c : Cancellation) :
    UpdateRequests w s path c where
  word := by
    by_cases h : ∃ v data, Sends w s path c v data
    · obtain ⟨v, data, h⟩ := h
      obtain ⟨n, hn, hq, _⟩ := h.requests
      exact .inr ⟨_, n, hn, hq⟩
    · exact .inl (update_idle fun v data hv => h ⟨v, data, hv⟩)
  uploads := by
    constructor
    · rintro ⟨image, hm⟩
      exact exists_sends hm
    · rintro ⟨v, data, h⟩
      obtain ⟨n, _, hq, _⟩ := h.requests
      exact ⟨_, hq ▸ List.mem_cons_self⟩
  consent := by
    intro before t image after hl
    obtain ⟨v, data, h⟩ := exists_sends (requested hl rfl)
    obtain ⟨rfl, rfl, rfl, ha⟩ := h.split hl
    exact ⟨v.file, v, h.selected, validate_validated v, rfl, ha, h.read, h.going⟩
  success := by
    intro before t after hl
    obtain ⟨v, data, h⟩ := exists_sends (requested hl rfl)
    obtain ⟨u, hu, hk⟩ := h.state_split hl
    exact ⟨v, data, u, h, hu, hk⟩

structure Grants (s : Setting) (d : Nat) (info : DeviceInfo) : Prop where
  answered : s.device.info 0 = some (d, .ok info)
  available : info.canRollback = true
  accepted : (s.reply 0).accepts = true

structure RollbackRequests (w : Workflow) (s : Setting) (c : Cancellation) : Prop where
  word : seen Entry.request? ((rollback w s).run c).log = [.info] ∨
    ∃ n ≤ w.reconnect.maxAttempts,
      seen Entry.request? ((rollback w s).run c).log =
        .info :: .rollback :: List.replicate n .state
  rollbacks : .rollback ∈ seen Entry.request? ((rollback w s).run c).log ↔
    ∃ d info, Grants s d info
  consent : ∀ before t after,
    ((rollback w s).run c).log = before ++ ⟨t, .call .rollback⟩ :: after →
    ∃ d info, s.device.info 0 = some (d, .ok info) ∧ info.canRollback = true ∧
      seen Entry.request? before = [.info] ∧
      seen Entry.answer? before = [(Confirmation.Action.rollback.request, true)] ∧
      seen Entry.answer? after = []
  success : ∀ before t after,
    ((rollback w s).run c).log = before ++ ⟨t, .call .state⟩ :: after →
    .rollback ∈ seen Entry.request? before ∧
      ∃ d v, s.device.rollback 0 = some (d, .ok v) ∧ v.success = true

structure Restarts (w : Workflow) (s : Setting) (log : List (Stamped Entry)) : Prop where
  answers : seen Entry.answer? log = []
  requests : ∃ n ≤ w.reconnect.maxAttempts,
    seen Entry.request? log = List.replicate n .state ∧
      (n = 0 ∨ ∃ d v, s.device.rollback 0 = some (d, .ok v) ∧ v.success = true)

lemma Restarts.closed {log : List (Stamped Entry)} (h : Restarts w s log) (t : Nat) (b : Action)
    (ending : Option (Nat × α)) :
    Restarts w s (log.map (Stamped.later t) ++ closing b ending) := by
  constructor
  · simpa using h.answers
  · simpa using h.requests

lemma rollbackAndRestart_log (w : Workflow) (s : Setting) (c : Cancellation) :
    ∃ log, (rollbackAndRestart w s c).log = ⟨0, .call .rollback⟩ :: log ∧ Restarts w s log := by
  cases h : s.device.rollback 0 with
  | none =>
    rw [rollbackAndRestart_silent h]
    exact ⟨_, rfl, rfl, 0, Nat.zero_le _, rfl, .inl rfl⟩
  | some a =>
    obtain ⟨d, r⟩ := a
    cases r with
    | error causes =>
      rw [rollbackAndRestart_unanswered h]
      exact ⟨_, rfl, rfl, 0, Nat.zero_le _, rfl, .inl rfl⟩
    | ok v =>
      cases hv : v.success with
      | false =>
        rw [rollbackAndRestart_refused h hv]
        exact ⟨_, rfl, rfl, 0, Nat.zero_le _, rfl, .inl rfl⟩
      | true =>
        have ha : Activity.Keeps (fun e => e.answer? = none) (followRestart w s) := by
          apply followRestart_keeps
          · exact fun _ _ => rfl
          · exact fun _ => rfl
          · rfl
        obtain ⟨n, hn, hs⟩ := followRestart_requests w s (c.after d 2)
        rw [rollbackAndRestart_started h hv]
        refine ⟨_, rfl, ?_, n, hn, ?_, .inr ⟨d, v, h, hv⟩⟩
        · simpa [Entry.answer?] using ha.seen_eq_nil (c.after d 2)
        · simpa [Entry.request?] using hs

def asking (s : Setting) (d : Nat) (info : DeviceInfo) : List (Stamped Entry) :=
  [⟨0, .call .info⟩, ⟨d, .render (.info info)⟩] ++
    (opening s .rollback .rollback).map (Stamped.later d)

variable {d : Nat} {info : DeviceInfo}

lemma rollback_granted (h : Grants s d info) (w : Workflow) (c : Cancellation) :
    let r := (rollbackAndRestart w s (c.after (d + (s.reply 0).delay) 4)).later
      (d + (s.reply 0).delay)
    rollback w s c = ⟨asking s d info ++ r.log ++ closing .rollback r.ending, r.ending⟩ := by
  rw [rollback_available h.answered h.available, confirmed_accepted h.accepted]
  simp [Run.after, Run.later, asking, closing_later, Function.comp_def, Stamped.later,
    Nat.add_assoc]

lemma Grants.log (h : Grants s d info) (w : Workflow) (c : Cancellation) :
    ∃ log, (rollback w s c).log =
      asking s d info ++ ⟨d + (s.reply 0).delay, .call .rollback⟩ :: log ∧ Restarts w s log := by
  obtain ⟨log, hl, hr⟩ := rollbackAndRestart_log w s (c.after (d + (s.reply 0).delay) 4)
  rw [rollback_granted h]
  refine ⟨_, ?_, hr.closed (d + (s.reply 0).delay) .rollback
    ((rollbackAndRestart w s (c.after (d + (s.reply 0).delay) 4)).later
      (d + (s.reply 0).delay)).ending⟩
  simp [hl, Stamped.later]

lemma rollback_idle (h : ∀ d info, ¬ Grants s d info) (w : Workflow) (c : Cancellation) :
    seen Entry.request? (rollback w s c).log = [.info] := by
  cases hi : s.device.info 0 with
  | none =>
    rw [rollback_silent hi]
    rfl
  | some a =>
    obtain ⟨d, r⟩ := a
    cases r with
    | error causes =>
      rw [rollback_unanswered hi]
      rfl
    | ok info =>
      cases hr : info.canRollback with
      | false =>
        rw [rollback_unavailable hi hr]
        rfl
      | true =>
        have ha : (s.reply 0).accepts = false :=
          Bool.eq_false_of_not_eq_true fun ha => h d info ⟨hi, hr, ha⟩
        rw [rollback_available hi hr, confirmed_declined ha]
        rfl

lemma exists_grants {k : Call} (h : k ∈ seen Entry.request? (rollback w s c).log)
    (hk : k ≠ .info) : ∃ d info, Grants s d info := by
  by_contra hn
  rw [rollback_idle (fun d info hi => hn ⟨d, info, hi⟩) w c, List.mem_singleton] at h
  exact hk h

lemma Grants.requests (h : Grants s d info) (w : Workflow) (c : Cancellation) :
    ∃ n ≤ w.reconnect.maxAttempts,
      seen Entry.request? (rollback w s c).log = .info :: .rollback :: List.replicate n .state := by
  obtain ⟨log, hl, hr⟩ := h.log w c
  obtain ⟨n, hn, hq, _⟩ := hr.requests
  refine ⟨n, hn, ?_⟩
  rw [hl, seen_append, seen_cons, hq]
  rfl

lemma Grants.split (h : Grants s d info) {before after : List (Stamped Entry)}
    {t : Nat} (hl : (rollback w s c).log = before ++ ⟨t, .call .rollback⟩ :: after) :
    before = asking s d info ∧ seen Entry.answer? after = [] := by
  obtain ⟨log, hlog, hr⟩ := h.log w c
  obtain ⟨n, _, hq, _⟩ := hr.requests
  have hnot : ⟨t, .call .rollback⟩ ∉ log := by
    intro hm
    have hm' : Call.rollback ∈ seen Entry.request? log := mem_seen.mpr ⟨_, hm, rfl⟩
    rw [hq] at hm'
    simp at hm'
  rw [hlog] at hl
  obtain ⟨rfl, _, rfl⟩ :=
    (List.append_cons_inj_of_notMem (by simp [asking, opening, Stamped.later]) hnot).mp hl
  exact ⟨rfl, hr.answers⟩

lemma Grants.state_split (h : Grants s d info)
    {before after : List (Stamped Entry)} {t : Nat}
    (hl : (rollback w s c).log = before ++ ⟨t, .call .state⟩ :: after) :
    .rollback ∈ seen Entry.request? before ∧
      ∃ d v, s.device.rollback 0 = some (d, .ok v) ∧ v.success = true := by
  obtain ⟨log, hlog, hr⟩ := h.log w c
  obtain ⟨n, _, hq, hv⟩ := hr.requests
  rw [hlog] at hl
  have hk : asking s d info ++ [⟨d + (s.reply 0).delay, .call .rollback⟩] <+:
      before ++ ⟨t, .call .state⟩ :: after := ⟨log, by simp [← hl]⟩
  have hb := prefix_of_split hk (by simp [asking, opening, Stamped.later])
  refine ⟨mem_seen.mpr ⟨_, hb.subset (List.mem_append_right _ List.mem_cons_self), rfl⟩, ?_⟩
  rcases hv with rfl | hv
  · have hm := requested hl rfl
    rw [seen_append, seen_cons, hq] at hm
    simp [asking, opening, Entry.request?] at hm
  · exact hv

lemma rollbackRequests (w : Workflow) (s : Setting) (c : Cancellation) :
    RollbackRequests w s c where
  word := by
    by_cases h : ∃ d info, Grants s d info
    · obtain ⟨d, info, h⟩ := h
      exact .inr (h.requests w c)
    · exact .inl (rollback_idle (fun d info hi => h ⟨d, info, hi⟩) w c)
  rollbacks := by
    constructor
    · intro hm
      exact exists_grants hm (by simp)
    · rintro ⟨d, info, h⟩
      obtain ⟨n, _, hq⟩ := h.requests w c
      rw [Activity.run, hq]
      simp
  consent := by
    intro before t after hl
    obtain ⟨d, info, h⟩ := exists_grants (requested hl rfl) (by simp)
    obtain ⟨rfl, ha⟩ := h.split hl
    exact ⟨d, info, h.answered, h.available, rfl, rfl, ha⟩
  success := by
    intro before t after hl
    obtain ⟨d, info, h⟩ := exists_grants (requested hl rfl) (by simp)
    exact h.state_split hl

theorem requests_in_order (w : Workflow) (s : Setting) (path : String) (c : Cancellation) :
    seen Entry.request? ((loadInfo s).run c).log = [.info] ∧
    UpdateRequests w s path c ∧ RollbackRequests w s c :=
  ⟨loadInfo_requests s c, updateRequests w s path c, rollbackRequests w s c⟩

end FirmwareUpdate.Workflow
