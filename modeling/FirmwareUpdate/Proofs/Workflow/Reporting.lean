import FirmwareUpdate.Proofs.Upload.Announced
import FirmwareUpdate.Proofs.Workflow.Following
import FirmwareUpdate.Proofs.Workflow.Session

/-! How a task reports its result. The last words of a task follow from what it comes to, and
nothing else in its log is an error, a warning or the notice that the device keeps its firmware. -/

namespace FirmwareUpdate.Workflow

open Firmware (validate_file)

namespace Entry

def alarm? : Entry → Option Notice
  | .notify n => if n.level = .error ∨ n.level = .warning then some n else none
  | _ => none

def isIntact : Entry → Bool
  | .notify .firmwareIntact => true
  | _ => false

def isWaiting : Entry → Bool
  | .render (.countdown _) | .render (.reconnecting _) | .call .state => true
  | _ => false

end Entry

def loudness : Except Failure Yield → Option Level
  | .ok (.completion (.reloadManually _)) => some .warning
  | .ok _ => none
  | .error (.upload .cancelled) | .error (.poll (.cancelled _)) | .error .rollbackUnavailable =>
      some .warning
  | .error _ => some .error

def UploadFailed (r : Option (Except Failure Yield)) : Prop :=
  ∃ f, r = some (.error (.upload f))

/-- The log of a task beside its result, of which there is none while the task waits. -/
structure Reported (log : List Entry) (r : Option (Except Failure Yield)) : Prop where
  alarms : (log.filterMap Entry.alarm?).map Notice.level = (r.bind loudness).toList
  intact : UploadFailed r → log.countP Entry.isIntact = 1 ∧
    (∃ before n after, log = before ++ .notify n :: .notify .firmwareIntact :: after ∧
      log.filterMap Entry.alarm? = [n]) ∧ ∀ e ∈ log, e.isWaiting = false
  unsaid : ¬ UploadFailed r → log.countP Entry.isIntact = 0
  refused : ∀ m, r = some (.error (.rollback m)) →
    m ≠ "" ∧ (log.filterMap Entry.alarm?).map Notice.message = [m]

inductive LastWords : Option (Except Failure Yield) → List Entry → Prop
  | nothing : LastWords none []
  | info (i : DeviceInfo) : LastWords (some (.ok (.info i))) []
  | declined : LastWords (some (.ok (.completion .declined))) []
  | reachable (k : Nat) : LastWords (some (.ok (.completion (.reachable k))))
      [.render (.online k), .notify .online]
  | reloadManually (k : Nat) : LastWords (some (.ok (.completion (.reloadManually k))))
      [.render (.timedOut k), .notify .tooSlow]
  | unread (m : String) : LastWords (some (.error (.fileAccess m)))
      [.notify (.fileUnreadable (.fileAccess m))]
  | rejected (r : Firmware.Rejection) : LastWords (some (.error (.rejected r)))
      [.notify (.rejected r)]
  | upload (f : Upload.Failure) : LastWords (some (.error (.upload f)))
      [.notify (.uploadFailed f), .notify .firmwareIntact]
  | cancelled (k : Nat) : LastWords (some (.error (.poll (.cancelled k)))) [.notify .waitCancelled]
  | unavailable : LastWords (some (.error .rollbackUnavailable)) [.notify .rollbackUnavailable]
  | refused {m : String} (h : m ≠ "") : LastWords (some (.error (.rollback m)))
      [.notify (.rollbackRefused m)]
  | unreached (m : String) : LastWords (some (.error (.device m)))
      [.notify (.rollbackFailed (.device m))]
  | unanswered (m : String) : LastWords (some (.error (.device m)))
      [.notify (.infoFailed (.device m))]

/-- An entry that reports no result; after an upload that failed nothing waits for the device. -/
structure Entry.Quiet (r : Option (Except Failure Yield)) (e : Entry) : Prop where
  alarm : e.alarm? = none
  intact : e.isIntact = false
  waiting : UploadFailed r → e.isWaiting = false

def Concluded (log : List Entry) (r : Option (Except Failure Yield)) : Prop :=
  ∃ before words after, log = before ++ words ++ after ∧ LastWords r words ∧
    (∀ e ∈ before, e.Quiet r) ∧ ∀ e ∈ after, e.Quiet r

variable {r : Option (Except Failure Yield)} {log k : List Entry}

lemma LastWords.concluded {words : List Entry} (h : LastWords r words) : Concluded words r :=
  ⟨[], words, [], by simp, h, by simp, by simp⟩

lemma Concluded.after (h : Concluded log r) (hk : ∀ e ∈ k, e.Quiet r) : Concluded (k ++ log) r := by
  obtain ⟨before, words, after, rfl, hw, hb, ha⟩ := h
  exact ⟨k ++ before, words, after, by simp, hw, List.forall_mem_append.mpr ⟨hk, hb⟩, ha⟩

lemma Concluded.before (h : Concluded log r) (hk : ∀ e ∈ k, e.Quiet r) :
    Concluded (log ++ k) r := by
  obtain ⟨before, words, after, rfl, hw, hb, ha⟩ := h
  exact ⟨before, words, after ++ k, by simp, hw, hb, List.forall_mem_append.mpr ⟨ha, hk⟩⟩

lemma quiet_alarms (h : ∀ e ∈ log, e.Quiet r) : log.filterMap Entry.alarm? = [] :=
  List.filterMap_eq_nil_iff.mpr fun e he => (h e he).alarm

lemma quiet_intact (h : ∀ e ∈ log, e.Quiet r) : log.countP Entry.isIntact = 0 :=
  List.countP_eq_zero.mpr fun e he => by simp [(h e he).intact]

lemma LastWords.alarms {words : List Entry} (h : LastWords r words) :
    (words.filterMap Entry.alarm?).map Notice.level = (r.bind loudness).toList := by
  cases h with
  | upload f => cases f <;> rfl
  | _ => rfl

lemma Concluded.reported (h : Concluded log r) : Reported log r := by
  obtain ⟨before, words, after, rfl, hw, hb, ha⟩ := h
  have halarms :
      (before ++ words ++ after).filterMap Entry.alarm? = words.filterMap Entry.alarm? := by
    simp [List.filterMap_append, quiet_alarms hb, quiet_alarms ha]
  have hintact :
      (before ++ words ++ after).countP Entry.isIntact = words.countP Entry.isIntact := by
    simp [List.countP_append, quiet_intact hb, quiet_intact ha]
  constructor
  · rw [halarms, hw.alarms]
  · rintro ⟨f, rfl⟩
    rw [halarms, hintact]
    cases hw with
    | upload =>
      have hn : [Entry.notify (.uploadFailed f), .notify .firmwareIntact].filterMap Entry.alarm? =
          [.uploadFailed f] := by
        cases f <;> rfl
      refine ⟨rfl, ⟨before, .uploadFailed f, after, by simp, hn⟩, ?_⟩
      intro e he
      simp only [List.mem_append, List.mem_cons, List.not_mem_nil, or_false] at he
      rcases he with (he | rfl | rfl) | he
      · exact (hb e he).waiting ⟨f, rfl⟩
      · rfl
      · rfl
      · exact (ha e he).waiting ⟨f, rfl⟩
  · intro hn
    rw [hintact]
    cases hw with
    | upload f => exact absurd ⟨f, rfl⟩ hn
    | _ => rfl
  · rintro m rfl
    rw [halarms]
    cases hw with
    | refused hm => exact ⟨hm, rfl⟩

def Concludes (x : Activity Entry Result) : Prop :=
  Activity.Leaves (fun log r => Concluded log (r.map (Except.map .completion))) x

lemma Concludes.concluded {x : Activity Entry Result} (h : Concludes x) (c : Cancellation) :
    Concluded (x c).entries ((x c).ending.map fun e => e.2.map .completion) := by
  have hc : Concluded (x c).entries (((x c).ending.map Prod.snd).map (Except.map .completion)) :=
    h c
  rwa [Option.map_map] at hc

structure Entry.Silent (e : Entry) : Prop where
  alarm : e.alarm? = none
  intact : e.isIntact = false
  waiting : e.isWaiting = false

lemma Entry.Silent.quiet {e : Entry} (h : e.Silent) : e.Quiet r :=
  ⟨h.alarm, h.intact, fun _ => h.waiting⟩

variable {w : Workflow} {s : Setting} {α : Type} {x : Activity Entry α}
  {f : α → Activity Entry Result}

lemma Concludes.bind (hx : Activity.Keeps Entry.Silent x) (hf : ∀ a, Concludes (f a)) :
    Concludes (x >>= f) := by
  refine Activity.Leaves.keeps_bind hx ?_ ?_
  · intro k hk
    have h := LastWords.nothing.concluded.after (k := k) fun e he => (hk e he).quiet
    rwa [List.append_nil] at h
  · intro a k hk
    exact (hf a).mono fun l r hl => hl.after fun e he => (hk e he).quiet

def WaitConcludes (x : Activity Entry Result) : Prop :=
  Activity.Leaves (fun log r => Concluded log (r.map (Except.map .completion)) ∧
    ¬ UploadFailed (r.map (Except.map .completion))) x

lemma WaitConcludes.bind
    (hx : Activity.Keeps (fun e => e.alarm? = none ∧ e.isIntact = false) x)
    (hf : ∀ a, WaitConcludes (f a)) : WaitConcludes (x >>= f) := by
  have hquiet : ∀ k : List Entry, (∀ e ∈ k, e.alarm? = none ∧ e.isIntact = false) →
      ∀ r, ¬ UploadFailed r → ∀ e ∈ k, e.Quiet r :=
    fun k hk r hr e he => ⟨(hk e he).1, (hk e he).2, fun hu => absurd hu hr⟩
  refine Activity.Leaves.keeps_bind hx ?_ ?_
  · intro k hk
    have hn : ¬ UploadFailed none := by simp [UploadFailed]
    have h := LastWords.nothing.concluded.after (hquiet k hk none hn)
    rw [List.append_nil] at h
    exact ⟨h, hn⟩
  · intro a k hk
    exact (hf a).mono fun l r hl => ⟨hl.1.after (hquiet k hk _ hl.2), hl.2⟩

lemma followPoll_concludes (p : Except Reconnect.Failure Nat) : WaitConcludes (followPoll p) := by
  intro c
  rw [followPoll_prompt p]
  cases p with
  | ok k =>
    exact ⟨(LastWords.reachable k).concluded, by simp [UploadFailed, conclusion, Except.map]⟩
  | error e =>
    cases e with
    | timedOut k =>
      exact ⟨(LastWords.reloadManually k).concluded, by simp [UploadFailed, conclusion, Except.map]⟩
    | cancelled k =>
      exact ⟨(LastWords.cancelled k).concluded, by simp [UploadFailed, conclusion, Except.map]⟩

lemma followRestart_concludes (w : Workflow) (s : Setting) : Concludes (followRestart w s) := by
  have h : WaitConcludes (followRestart w s) := by
    rw [followRestart_eq]
    refine .bind (countDown_keeps (fun _ _ => ⟨rfl, rfl⟩) _) fun goesOn => ?_
    cases goesOn with
    | false => exact followPoll_concludes (.error (.cancelled 0))
    | true => exact .bind (polled_keeps (fun _ _ => ⟨rfl, rfl⟩) ⟨rfl, rfl⟩ w s) followPoll_concludes
  exact h.mono fun _ _ hl => hl.1

lemma followUpload_concludes (r : Upload.Result) : Concludes (followUpload w s r) := by
  cases r with
  | error e => exact fun _ => (LastWords.upload e).concluded
  | ok u => exact .bind (.write ⟨rfl, rfl, rfl⟩) fun _ => followRestart_concludes w s

lemma uploadAndRestart_concludes (w : Workflow) (s : Setting) (f : Firmware.File) :
    Concludes (uploadAndRestart w s f) := by
  cases h : f.read s.changed with
  | error e =>
    intro c
    rw [uploadAndRestart_unread h]
    exact (LastWords.unread e.message).concluded
  | ok data =>
    rw [uploadAndRestart_read h]
    refine .bind (.mapLog ?_) followUpload_concludes
    intro c e _
    cases e <;> exact ⟨rfl, rfl, rfl⟩

lemma rollbackAndRestart_concludes (w : Workflow) (s : Setting) :
    Concludes (rollbackAndRestart w s) := by
  refine .bind (.write ⟨rfl, rfl, rfl⟩) fun _ => .bind (await_keeps _) fun answer => ?_
  cases answer with
  | error causes => exact fun _ => (LastWords.unreached causes.message).concluded
  | ok v =>
    cases hv : v.success with
    | false =>
      have hm : messageOr "Rollback failed" v.message ≠ "" :=
        Upload.messageOr_ne_empty (by decide) v.message
      simp only [hv]
      exact fun _ => (LastWords.refused hm).concluded
    | true =>
      simp only [hv]
      exact .bind (.write ⟨rfl, rfl, rfl⟩) fun _ => followRestart_concludes w s

lemma busy_concludes {x : Activity Entry Result} (h : Concludes x) (b : Action) :
    Concludes (busy b x) := by
  have hmark : ∀ on, (Entry.busy b on).Silent := fun _ => ⟨rfl, rfl, rfl⟩
  intro c
  have hx := (h (c.after 0 1)).before
      (k := (closing b (x (c.after 0 1)).ending).map (·.entry)) <| by
    intro e he
    obtain ⟨d, hd, rfl⟩ := List.mem_map.mp he
    obtain ⟨t, _, rfl⟩ := List.mem_map.mp hd
    exact (hmark false).quiet
  have hb := hx.after (k := [.busy b true]) (by simpa using (hmark true).quiet)
  simpa [busy_run, Run.entries] using hb

lemma confirmed_concludes {x : Activity Entry Result} (h : Concludes x) (a : Confirmation.Action) :
    Concludes (confirmed s a x) := by
  refine .bind (.bind (.pass _) fun _ => .bind (.write ⟨rfl, rfl, rfl⟩) fun _ => .pure _) ?_
  intro accepts
  cases accepts with
  | false => exact fun _ => LastWords.declined.concluded
  | true => exact h

lemma update_concludes (w : Workflow) (s : Setting) (path : String) :
    Concludes (update w s path) := by
  cases hs : Firmware.select s.files path with
  | error e =>
    intro c
    rw [update_unselected hs]
    exact (LastWords.unread e.message).concluded
  | ok f =>
    cases hv : w.firmware.validate f with
    | error r =>
      intro c
      rw [update_rejected hs hv]
      exact (LastWords.rejected r).concluded
    | ok v =>
      rw [update_validated (v := v) (by rw [hs, validate_file hv])]
      exact confirmed_concludes (busy_concludes (uploadAndRestart_concludes w s _) _) _

lemma rollback_concludes (w : Workflow) (s : Setting) : Concludes (rollback w s) := by
  have hcall : (Entry.call .info).Silent := ⟨rfl, rfl, rfl⟩
  have hinfo : ∀ i, (Entry.render (.info i)).Silent := fun _ => ⟨rfl, rfl, rfl⟩
  intro c
  cases hi : s.device.info 0 with
  | none =>
    rw [rollback_silent hi]
    exact LastWords.nothing.concluded.after (k := [.call .info]) (by simpa using hcall.quiet)
  | some a =>
    obtain ⟨d, r⟩ := a
    cases r with
    | error causes =>
      rw [rollback_unanswered hi]
      exact (LastWords.unanswered causes.message).concluded.after (k := [.call .info])
        (by simpa using hcall.quiet)
    | ok info =>
      cases hr : info.canRollback with
      | false =>
        rw [rollback_unavailable hi hr]
        exact LastWords.unavailable.concluded.after (k := [.call .info, .render (.info info)])
          (by simpa using ⟨hcall.quiet, (hinfo info).quiet⟩)
      | true =>
        have hc := confirmed_concludes (s := s)
          (busy_concludes (rollbackAndRestart_concludes w s) .rollback) .rollback (c.after d 2)
        have hl := hc.after (k := [.call .info, .render (.info info)])
          (by simpa using ⟨hcall.quiet, (hinfo info).quiet⟩)
        rw [rollback_available hi hr, Run.entries_after, Run.entries_later, Run.ending_after,
          Run.ending_later]
        simpa [Function.comp_def] using hl

lemma loadInfo_concluded (s : Setting) (c : Cancellation) :
    Concluded (loadInfo s c).entries ((loadInfo s c).ending.map fun e => e.2.map .info) := by
  have hcall : (Entry.call .info).Silent := ⟨rfl, rfl, rfl⟩
  rw [loadInfo_run]
  cases s.device.info 0 with
  | none =>
    exact LastWords.nothing.concluded.after (k := [.call .info]) (by simpa using hcall.quiet)
  | some a =>
    obtain ⟨d, r⟩ := a
    cases r with
    | error causes =>
      exact (LastWords.unanswered causes.message).concluded.after (k := [.call .info])
        (by simpa using hcall.quiet)
    | ok info =>
      have hinfo : (Entry.render (.info info)).Silent := ⟨rfl, rfl, rfl⟩
      exact (LastWords.info info).concluded.after (k := [.call .info, .render (.info info)])
        (by simpa using ⟨hcall.quiet, hinfo.quiet⟩)

theorem reported_once (w : Workflow) (s : Setting) (task : Task) (c : Cancellation) :
    Reported ((perform w s task).run c).entries (((perform w s task).run c).ending.map Prod.snd) := by
  apply Concluded.reported
  cases task with
  | info =>
    rw [perform_info, Option.map_map]
    exact loadInfo_concluded s c
  | update path =>
    rw [perform_update, Option.map_map]
    exact (update_concludes w s path).concluded c
  | rollback =>
    rw [perform_rollback, Option.map_map]
    exact (rollback_concludes w s).concluded c

end FirmwareUpdate.Workflow
