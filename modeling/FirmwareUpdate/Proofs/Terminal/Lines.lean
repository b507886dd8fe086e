import FirmwareUpdate.CommandLine.Run
import FirmwareUpdate.Proofs.Terminal.Bar
import FirmwareUpdate.Proofs.Workflow.Session

/-! The lines that are printed. A task shows the events of one upload at most, and nothing else
while they last; the upload is over before a line is printed, so none is swallowed by a bar, in
whatever order the tasks of a session come. -/

namespace FirmwareUpdate

open Terminal Workflow
open Upload (Tracker Shows)

namespace Workflow.Entry

def upload? : Entry → Option Upload.Event
  | .render (.upload e) => some e
  | _ => none

def isLine : Entry → Bool
  | .render (.upload _) | .render (.online _) => false
  | .render _ => true
  | .notify n => n.level ≠ .error
  | _ => false

end Workflow.Entry

namespace CommandLine

variable {yes : Bool} {input : List UInt8} {α : Type} {p : Presenter}

def presented (yes : Bool) (input : List UInt8) (p : Presenter) (log : List Entry) : Presenter :=
  log.foldl (fun p e => (present yes input p e).1) p

/-- The run of a task, told to a presenter: the bar is there exactly while an upload is active, and
nothing is printed while it is. -/
structure Visible (yes : Bool) (input : List UInt8) (p : Presenter)
    (r : Run Entry (Except Workflow.Failure Yield)) : Prop where
  follows : ∀ before after, r.entries = before ++ after →
    (∃ t, Shows (before.filterMap Entry.upload?) t) ∧
      ∀ t, Shows (before.filterMap Entry.upload?) t →
        (presented yes input p before).bar = t.status.isActive
  lines : ∀ before e after, r.entries = before ++ e :: after → e.isLine = true →
    (presented yes input p before).bar = false
  whole : ∀ before e after, r.entries = before ++ e :: after →
    (present yes input (presented yes input p before) e).2 = (present yes input .new e).2
  ended : r.ending ≠ none → (presented yes input p r.entries).bar = false

def AllVisible (yes : Bool) (input : List UInt8) :
    Presenter → List (Run Entry (Except Workflow.Failure Yield)) → Prop
  | _, [] => True
  | p, r :: rs =>
      Visible yes input p r ∧ AllVisible yes input (presented yes input p r.entries) rs

lemma presented_eq (p : Presenter) (log : List Entry) :
    presented yes input p log = (log.filterMap Entry.upload?).foldl Presenter.follow p := by
  induction log generalizing p with
  | nil => rfl
  | cons e log ih =>
    have hcons : presented yes input p (e :: log) =
        presented yes input (present yes input p e).1 log := rfl
    rw [hcons, ih]
    cases e with
    | render e => cases e <;> rfl
    | _ => rfl

lemma eq_new (h : p.bar = false) : p = .new := by
  cases p with
  | mk bar =>
    obtain rfl : bar = false := h
    rfl

lemma present_whole {e : Entry} (h : e.isLine = true → p.bar = false) :
    (present yes input p e).2 = (present yes input .new e).2 := by
  cases hl : e.isLine with
  | true =>
    rw [eq_new (h hl)]
  | false =>
    cases e with
    | call | dialog | busy => rfl
    | render e =>
      cases e with
      | upload | online => rfl
      | _ => cases hl
    | notify n =>
      have hn : n.level = .error := by simpa [Entry.isLine] using hl
      simp only [present, hn, Presenter.notify]

/-- The events of one upload at most. No line is printed while they last, and when they are not over
nothing else comes. -/
def UploadsOnce (log : List Entry) (r : Option α) : Prop :=
  ∃ before during after os, log = before ++ during ++ after ∧
    (∀ e ∈ before, e.upload? = none) ∧ (∀ e ∈ during, e.isLine = false) ∧
    during.filterMap Entry.upload? = (Tracker.new.run os).2 ∧ (∀ e ∈ after, e.upload? = none) ∧
    ((Tracker.new.run os).1.status.isActive = true → after = [] ∧ r = none)

variable {log k : List Entry} {r : Option α}

lemma UploadsOnce.quiet (h : ∀ e ∈ log, e.upload? = none) : UploadsOnce log r := by
  refine ⟨log, [], [], [], by simp, h, by simp, rfl, by simp, ?_⟩
  intro ha
  cases ha

lemma UploadsOnce.after (h : UploadsOnce log r) (hk : ∀ e ∈ k, e.upload? = none) :
    UploadsOnce (k ++ log) r := by
  obtain ⟨before, during, after, os, rfl, hb, hrest⟩ := h
  exact ⟨k ++ before, during, after, os, by simp, List.forall_mem_append.mpr ⟨hk, hb⟩, hrest⟩

lemma UploadsOnce.before {β : Type} {a : α} {q : Option β} (h : UploadsOnce log (some a))
    (hk : ∀ e ∈ k, e.upload? = none) : UploadsOnce (log ++ k) q := by
  obtain ⟨before, during, after, os, rfl, hb, hd, he, ha, ho⟩ := h
  refine ⟨before, during, after ++ k, os, by simp, hb, hd, he, ?_, ?_⟩
  · exact List.forall_mem_append.mpr ⟨ha, hk⟩
  · intro hactive
    cases (ho hactive).2

lemma UploadsOnce.stopped {β : Type} (h : UploadsOnce log (none : Option α)) :
    UploadsOnce log (none : Option β) := by
  obtain ⟨before, during, after, os, hl, hb, hd, he, ha, ho⟩ := h
  exact ⟨before, during, after, os, hl, hb, hd, he, ha, fun h => ⟨(ho h).1, rfl⟩⟩

lemma UploadsOnce.events (h : UploadsOnce log r) {k : List Entry} {e : Entry} {l : List Entry}
    (hl : log = k ++ e :: l) (he : e.isLine = true) :
    ∃ os, k.filterMap Entry.upload? = (Tracker.new.run os).2 ∧
      (Tracker.new.run os).1.status.isActive = false := by
  obtain ⟨before, during, after, os, rfl, hb, hd, hes, ha, ho⟩ := h
  have hbe : before.filterMap Entry.upload? = [] := List.filterMap_eq_nil_iff.mpr hb
  have hover : after ≠ [] → (Tracker.new.run os).1.status.isActive = false := by
    intro hne
    exact Bool.eq_false_iff.mpr fun hactive => hne (ho hactive).1
  rcases List.append_eq_append_iff.mp hl with ⟨m, rfl, hm⟩ | ⟨m, hm, hr⟩
  · refine ⟨os, ?_, hover (by simp [hm])⟩
    have hme : m.filterMap Entry.upload? = [] := by
      refine List.filterMap_eq_nil_iff.mpr fun d hd => ha d ?_
      simp [hm, hd]
    simp [List.filterMap_append, hbe, hes, hme]
  · cases m with
    | nil =>
      have ha : after = e :: l := hr.symm
      refine ⟨os, ?_, hover (by simp [ha])⟩
      rw [List.append_nil] at hm
      simp [← hm, List.filterMap_append, hbe, hes]
    | cons d m =>
      obtain ⟨rfl, _⟩ := List.cons_eq_cons.mp hr
      rcases List.append_eq_append_iff.mp hm with ⟨n, _, hn⟩ | ⟨n, rfl, _⟩
      · have hline : e.isLine = false := hd e (by simp [hn])
        rw [he] at hline
        cases hline
      · refine ⟨[], ?_, rfl⟩
        refine List.filterMap_eq_nil_iff.mpr fun d hd => hb d ?_
        exact List.mem_append_left _ hd

variable {w : Workflow} {s : Setting} {β : Type} {x : Activity Entry α} {f : α → Activity Entry β}

lemma leaves_quiet (h : Activity.Keeps (fun e => e.upload? = none) x) : x.Leaves UploadsOnce :=
  fun c => .quiet (h c)

lemma quiet_bind (hx : Activity.Keeps (fun e => e.upload? = none) x)
    (hf : ∀ a, (f a).Leaves UploadsOnce) : (x >>= f).Leaves UploadsOnce := by
  refine Activity.Leaves.keeps_bind hx (fun k hk => .quiet hk) ?_
  intro a k hk
  exact (hf a).mono fun l r hl => hl.after hk

lemma bind_quiet (hx : x.Leaves UploadsOnce)
    (hf : ∀ a, Activity.Keeps (fun e => e.upload? = none) (f a)) :
    (x >>= f).Leaves UploadsOnce := by
  refine Activity.Leaves.bind hx (fun k hk => hk.stopped) ?_
  intro k a hk c
  exact hk.before (hf a c)

lemma sent_uploads (s : Setting) (image : Upload.Image) :
    ((sent s image).mapLog .ofUpload).Leaves UploadsOnce := by
  intro c
  obtain ⟨os, he, ho⟩ := Upload.drive_operates image (s.device.upload 0 image) c
  have hentries : ((sent s image).mapLog .ofUpload c).entries =
      (sent s image c).entries.map Entry.ofUpload := by
    simp [Activity.mapLog, Run.entries, Function.comp_def]
  have hevent : ∀ e, (Entry.ofUpload e).upload? = e.event? := by
    intro e
    cases e <;> rfl
  refine ⟨[], (sent s image c).entries.map .ofUpload, [], os, ?_, by simp, ?_, ?_, by simp, ?_⟩
  · rw [hentries, List.nil_append, List.append_nil]
  · intro e hm
    obtain ⟨d, _, rfl⟩ := List.mem_map.mp hm
    cases d <;> rfl
  · rw [List.filterMap_map, ← he]
    exact List.filterMap_congr fun e _ => hevent e
  · intro hactive
    refine ⟨rfl, ?_⟩
    cases hr : (sent s image c).ending with
    | none => simp [Activity.mapLog, hr]
    | some e =>
      have hover := ho e.2 (by rw [← sent, hr]; rfl)
      rw [Upload.Over, hactive] at hover
      cases hover

lemma uploadAndRestart_uploads (w : Workflow) (s : Setting) (f : Firmware.File) :
    (uploadAndRestart w s f).Leaves UploadsOnce := by
  cases h : f.read s.changed with
  | error e =>
    intro c
    rw [uploadAndRestart_unread h]
    exact .quiet (by simp [Run.entries, Entry.upload?])
  | ok data =>
    rw [uploadAndRestart_read h]
    refine bind_quiet (sent_uploads s _) (followUpload_keeps ?_ (fun _ => rfl) rfl)
    intro e he
    cases e with
    | upload u => exact absurd rfl (he u)
    | _ => rfl

lemma confirmed_uploads {x : Activity Entry Result} (h : x.Leaves UploadsOnce)
    (a : Confirmation.Action) (b : Action) : (confirmed s a (busy b x)).Leaves UploadsOnce := by
  refine quiet_bind (.bind (.pass _) fun _ => .bind (.write rfl) fun _ => .pure _) ?_
  intro accepts
  cases accepts with
  | false => exact leaves_quiet (.pure _)
  | true =>
    refine quiet_bind (.write rfl) fun _ => bind_quiet h ?_
    exact fun _ => .bind (.write rfl) fun _ => .pure _

lemma update_uploads (w : Workflow) (s : Setting) (path : String) :
    (update w s path).Leaves UploadsOnce := by
  rcases update_cases w s path with ⟨v, hs⟩ | ⟨_, n, e, hr⟩
  · rw [update_validated hs]
    exact confirmed_uploads (uploadAndRestart_uploads w s v.file) _ _
  · intro c
    rw [hr]
    exact .quiet (by simp [Run.entries, Entry.upload?])

lemma loadInfo_quiet (s : Setting) : Activity.Keeps (fun e => e.upload? = none) (loadInfo s) := by
  apply loadInfo_keeps
  · rfl
  · exact fun _ => rfl
  · exact fun _ => rfl

lemma rollback_uploads (w : Workflow) (s : Setting) : (rollback w s).Leaves UploadsOnce := by
  rw [rollback_eq]
  refine quiet_bind (loadInfo_quiet s) ?_
  intro answer
  cases answer with
  | error f => exact leaves_quiet (.pure _)
  | ok info =>
    by_cases h : info.canRollback = true
    · simp only [followInfo, if_pos h]
      refine confirmed_uploads (leaves_quiet ?_) _ _
      apply rollbackAndRestart_keeps
      · intro e he
        cases e with
        | upload u => exact absurd rfl (he u)
        | _ => rfl
      · exact fun _ => rfl
      · rfl
      · rfl
    · simp only [followInfo, if_neg h]
      exact leaves_quiet (.bind (.write rfl) fun _ => .pure _)

lemma perform_uploads (w : Workflow) (s : Setting) (task : Task) :
    (perform w s task).Leaves UploadsOnce := by
  cases task with
  | info => exact bind_quiet (leaves_quiet (loadInfo_quiet s)) fun _ => .pure _
  | update path => exact bind_quiet (update_uploads w s path) fun _ => .pure _
  | rollback => exact bind_quiet (rollback_uploads w s) fun _ => .pure _

lemma UploadsOnce.total (h : UploadsOnce log r) :
    ∃ os, log.filterMap Entry.upload? = (Tracker.new.run os).2 ∧
      ((Tracker.new.run os).1.status.isActive = true → r = none) := by
  obtain ⟨before, during, after, os, rfl, hb, _, he, ha, ho⟩ := h
  refine ⟨os, ?_, fun hactive => (ho hactive).2⟩
  simp [List.filterMap_append, List.filterMap_eq_nil_iff.mpr hb, List.filterMap_eq_nil_iff.mpr ha,
    he]

lemma UploadsOnce.visible {r : Run Entry (Except Workflow.Failure Yield)}
    (h : UploadsOnce r.entries (r.ending.map Prod.snd)) : Visible yes input .new r := by
  have hlines : ∀ before e after, r.entries = before ++ e :: after → e.isLine = true →
      (presented yes input .new before).bar = false := by
    intro before e after hl he
    obtain ⟨os, hes, ho⟩ := h.events hl he
    rw [presented_eq, hes, run_bar (p := .new) rfl, ho]
  obtain ⟨os, hes, ho⟩ := h.total
  refine ⟨?_, hlines, ?_, ?_⟩
  · intro before after hl
    rw [hl, List.filterMap_append] at hes
    refine ⟨Upload.exists_shows ⟨_, hes⟩, ?_⟩
    intro t ht
    rw [presented_eq]
    exact shows_bar ht
  · intro before e after hl
    exact present_whole (hlines before e after hl)
  · intro he
    rw [presented_eq, hes, run_bar (p := .new) rfl]
    refine Bool.eq_false_iff.mpr fun hactive => he ?_
    exact Option.map_eq_none_iff.mp (ho hactive)

theorem lines_visible (w : Workflow) (s : Setting) (yes : Bool) (input : List UInt8)
    (tasks : List (Task × Cancellation)) : AllVisible yes input .new (session w s tasks) := by
  induction tasks generalizing s with
  | nil => trivial
  | cons t tasks ih =>
    obtain ⟨task, c⟩ := t
    have hv : Visible yes input .new ((perform w s task).run c) :=
      (perform_uploads w s task c).visible
    refine ⟨hv, ?_⟩
    by_cases he : ((perform w s task).run c).ending.isSome = true
    · rw [if_pos he, eq_new (hv.ended (Option.isSome_iff_ne_none.mp he))]
      exact ih _
    · rw [if_neg he]
      trivial

end CommandLine

end FirmwareUpdate
