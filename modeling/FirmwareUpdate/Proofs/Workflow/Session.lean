import FirmwareUpdate.Proofs.Workflow.Sending
import FirmwareUpdate.Workflow.Session

/-! The tasks of a session. Each of them is begun only when those before are over, so what every task
leaves as it found it holds whenever a task begins. -/

namespace FirmwareUpdate.Workflow

variable {w : Workflow} {s : Setting}

lemma await_keeps {α : Type} {P : Entry → Prop} (answer : Answer α) :
    Activity.Keeps P (await answer) := by
  cases answer with
  | none => exact fun _ _ he => nomatch he
  | some a => exact .bind (.pass _) fun _ => .pure _

lemma loadInfo_keeps {P : Entry → Prop} (hcall : P (.call .info))
    (hinfo : ∀ i, P (.render (.info i))) (hfail : ∀ f, P (.notify (.infoFailed f))) (s : Setting) :
    Activity.Keeps P (loadInfo s) := by
  intro c
  rw [loadInfo_run]
  cases s.device.info 0 with
  | none => simpa [infoRun, Run.entries] using hcall
  | some a =>
    obtain ⟨d, r⟩ := a
    cases r with
    | error causes => simpa [infoRun, Run.entries] using ⟨hcall, hfail _⟩
    | ok info => simpa [infoRun, Run.entries] using ⟨hcall, hinfo info⟩

@[simp] lemma perform_info (w : Workflow) (s : Setting) (c : Cancellation) :
    (perform w s .info).run c =
      ⟨(loadInfo s c).log, (loadInfo s c).ending.map fun e => (e.1, e.2.map .info)⟩ :=
  Activity.map_run _ _ c

@[simp] lemma perform_update (w : Workflow) (s : Setting) (path : String) (c : Cancellation) :
    (perform w s (.update path)).run c =
      ⟨(update w s path c).log,
        (update w s path c).ending.map fun e => (e.1, e.2.map .completion)⟩ :=
  Activity.map_run _ _ c

@[simp] lemma perform_rollback (w : Workflow) (s : Setting) (c : Cancellation) :
    (perform w s .rollback).run c =
      ⟨(rollback w s c).log, (rollback w s c).ending.map fun e => (e.1, e.2.map .completion)⟩ :=
  Activity.map_run _ _ c

lemma session_split {tasks : List (Task × Cancellation)}
    {rs more : List (Run Entry (Except Failure Yield))} {r : Run Entry (Except Failure Yield)}
    (h : session w s tasks = rs ++ r :: more) :
    (∀ q ∈ rs, ∃ s task c, q = (perform w s task).run c ∧ q.ending ≠ none) ∧
      ∃ s task c, r = (perform w s task).run c := by
  induction tasks generalizing s rs with
  | nil => simp [session] at h
  | cons t tasks ih =>
    obtain ⟨task, c⟩ := t
    rw [session] at h
    cases rs with
    | nil =>
      obtain ⟨rfl, _⟩ := List.cons_eq_cons.mp h
      exact ⟨by simp, s, task, c, rfl⟩
    | cons q rs =>
      rw [List.cons_append] at h
      obtain ⟨rfl, hrest⟩ := List.cons_eq_cons.mp h
      by_cases he : ((perform w s task).run c).ending.isSome = true
      · rw [if_pos he] at hrest
        obtain ⟨hrs, hr⟩ := ih hrest
        refine ⟨?_, hr⟩
        intro q hq
        rcases List.mem_cons.mp hq with rfl | hq
        · exact ⟨s, task, c, rfl, Option.isSome_iff_ne_none.mp he⟩
        · exact hrs q hq
      · rw [if_neg he] at hrest
        simp at hrest

lemma session_keeps {P : List Entry → Prop} (hnil : P [])
    (hnext : ∀ log s task c, P log → ((perform w s task).run c).ending ≠ none →
      P (log ++ ((perform w s task).run c).entries))
    {tasks : List (Task × Cancellation)} {rs more : List (Run Entry (Except Failure Yield))}
    {r : Run Entry (Except Failure Yield)} (h : session w s tasks = rs ++ r :: more) :
    P (rs.flatMap Run.entries) := by
  obtain ⟨hrs, _⟩ := session_split h
  clear h
  induction rs using List.reverseRecOn with
  | nil => exact hnil
  | append_singleton rs q ih =>
    obtain ⟨s', task, c, rfl, he⟩ := hrs q (by simp)
    rw [List.flatMap_append, List.flatMap_singleton]
    exact hnext _ s' task c (ih fun q hq => hrs q (List.mem_append_left _ hq)) he

variable {P : Entry → Prop}

lemma uploadAndRestart_keeps (hr : ∀ e, (∀ u, e ≠ .upload u) → P (.render e))
    (hn : ∀ n, P (.notify n)) (hs : P (.call .state)) (hu : ∀ e, P (.ofUpload e)) (w : Workflow)
    (s : Setting) (f : Firmware.File) : Activity.Keeps P (uploadAndRestart w s f) := by
  cases h : f.read s.changed with
  | error e =>
    simp only [uploadAndRestart, h]
    exact .bind (.write (hn _)) fun _ => .pure _
  | ok data =>
    rw [uploadAndRestart_read h]
    refine .bind (.mapLog ?_) (followUpload_keeps hr hn hs)
    exact fun _ e _ => hu e

lemma rollbackAndRestart_keeps (hr : ∀ e, (∀ u, e ≠ .upload u) → P (.render e))
    (hn : ∀ n, P (.notify n)) (hs : P (.call .state)) (hc : P (.call .rollback)) (w : Workflow)
    (s : Setting) : Activity.Keeps P (rollbackAndRestart w s) := by
  refine .bind (.write hc) fun _ => .bind (await_keeps _) fun answer => ?_
  cases answer with
  | error causes => exact .bind (.write (hn _)) fun _ => .pure _
  | ok v =>
    refine .ite ?_ ?_
    · exact .bind (.write (hn _)) fun _ => followRestart_keeps hr hn hs w s
    · exact .bind (.write (hn _)) fun _ => .pure _

end FirmwareUpdate.Workflow
