import FirmwareUpdate.Proofs.Truncation
import FirmwareUpdate.Proofs.Upload.Announced

/-! How an upload ends. Left alone, it ends right with the event that tells its result; a
cancellation before that cuts it short, and then it tells of nothing but the cancellation. -/

namespace FirmwareUpdate.Upload

def brokenOff : List Entry × Result :=
  ([.event (.status .cancelled), .event (.finished (.error .cancelled))], .error .cancelled)

lemma showAll_prompt (es : List Event) : Activity.Prompt (showAll es) (es.map .event, ()) :=
  .writeAll _

lemma abandon_prompt {t : Tracker} (h : t.status.isActive = true) :
    Activity.Prompt (abandon t) brokenOff := by
  simp only [abandon, Tracker.cancel, if_pos h]
  exact (showAll_prompt _).map fun _ => (.error .cancelled : Result)

lemma settle_prompt (n : Nat) (ending : Ending) (p : Progress) :
    Activity.Prompt (settle n ending p)
      (((drain n p.instant p.tracker p.pending).2 ++
          (conclude n p.instant (drain n p.instant p.tracker p.pending).1 ending).2).map .event,
        verdict (conclude n p.instant (drain n p.instant p.tracker p.pending).1 ending).1) :=
  (showAll_prompt _).map fun _ => verdict _

lemma progress_active {t : Tracker} (h : t.status.isActive = true) (count n now : Nat) :
    (t.progress count n now).1.status.isActive = true := by
  rw [(progress_takes t count n now).isActive, h]

lemma drain_active {t : Tracker} (h : t.status.isActive = true) (n now : Nat)
    (counts : List Nat) : (drain n now t counts).1.status.isActive = true := by
  induction counts generalizing t with
  | nil => exact h
  | cons count counts ih => exact ih (progress_active h count n now)

lemma showPending_stops {n now : Nat} {t : Tracker} {counts : List Nat}
    {f : Tracker × Bool → Activity Entry Result}
    (hf : Activity.Stops (f ((drain n now t counts).1, true)) fun _ => brokenOff) :
    Activity.Stops (showPending n now t counts >>= f) fun _ => brokenOff := by
  induction counts generalizing t with
  | nil =>
    rw [showPending, bind_assoc]
    apply Activity.Stops.goesOn_bind
    rw [pure_bind]
    exact hf
  | cons count counts ih =>
    rw [showPending, bind_assoc]
    apply Activity.Stops.goesOn_bind
    rw [if_pos rfl, bind_assoc]
    exact .prompt_bind (showAll_prompt _) (ih hf)

lemma proceed_stops (n : Nat) (ending : Ending) (steps : List Step) {p : Progress}
    (h : p.tracker.status.isActive = true) :
    Activity.Stops (proceed n ending steps p) fun _ => brokenOff := by
  induction steps generalizing p with
  | nil =>
    -- The token is not looked at any more, and no time is left for it to be cancelled in.
    exact .prompt_bind (.write _) (.prompt (settle_prompt n ending p))
  | cons step steps ih =>
    have hd := drain_active h n p.instant p.pending
    cases step with
    | send count => exact ih (by simpa [Progress.send, apply_ite] using h)
    | close => exact ih h
    | yield => exact showPending_stops (ih hd)
    | sleep span =>
      cases span with
      | zero => exact ih h
      | succ span => exact showPending_stops (.await_bind (ih hd) (abandon_prompt hd))
    | stall => exact showPending_stops (.awaitCancellation_bind (abandon_prompt hd))

theorem drive_stops (image : Image) (transfer : Transfer) :
    Activity.Stops (drive image transfer) fun _ => brokenOff := by
  refine .prompt_bind (showAll_prompt [.status .uploading]) (.goesOn_bind ?_)
  exact .prompt_bind (.write _) (proceed_stops _ _ _ rfl)

def Finishes (r : Run Entry Result) : Prop :=
  ∀ u a, r.ending = some (u, a) → r.log.getLast? = some ⟨u, .event (.finished a)⟩

lemma Finishes.later {r : Run Entry Result} (h : Finishes r) (t : Nat) : Finishes (r.later t) := by
  intro u a hu
  rw [Run.ending_later, Option.map_eq_some_iff] at hu
  obtain ⟨⟨v, b⟩, hv, he⟩ := hu
  cases he
  rw [Run.log_later, List.getLast?_map, h v a hv]
  rfl

lemma Finishes.after {r : Run Entry Result} (h : Finishes r) (log : List (Stamped Entry)) :
    Finishes (r.after log) := by
  intro u a hu
  rw [Run.log_after, List.getLast?_append, h u a hu]
  rfl

lemma conclude_finishes {t : Tracker} (h : t.status.isActive = true) (n now : Nat)
    (ending : Ending) :
    (conclude n now t ending).2.getLast? = some (.finished (verdict (conclude n now t ending).1)) := by
  obtain ⟨r, _, hc⟩ := conclude_closes h n now ending
  rw [hc, List.getLast?_append]
  rfl

lemma settle_finishes {n : Nat} {ending : Ending} {p : Progress}
    (h : p.tracker.status.isActive = true) : Finishes (settle n ending p .never) := by
  intro u a hu
  rw [settle_prompt n ending p] at hu ⊢
  cases hu
  have hc := conclude_finishes (drain_active h n p.instant p.pending) n p.instant ending
  simp [List.getLast?_append, hc]

lemma proceed_finishes {n : Nat} {ending : Ending} {steps : List Step} {p : Progress}
    (h : p.tracker.status.isActive = true) : Finishes (proceed n ending steps p .never) := by
  induction steps generalizing p with
  | nil =>
    rw [proceed, Activity.write_bind, Cancellation.never_after]
    exact (settle_finishes h).after _
  | cons step steps ih =>
    have hd := drain_active h n p.instant p.pending
    cases step with
    | send count => exact ih (by simpa [Progress.send, apply_ite] using h)
    | close => exact ih h
    | yield =>
      rw [yield_never]
      exact (ih hd).after _
    | sleep span =>
      cases span with
      | zero => exact ih h
      | succ span =>
        rw [sleep_never]
        exact ((ih hd).later _).after _
    | stall =>
      rw [stall_never]
      intro u a hu
      cases hu

lemma drive_finishes (image : Image) (transfer : Transfer) :
    Finishes (drive image transfer .never) := by
  have hp : Finishes (proceed image.data.size transfer.ending transfer.steps
      ⟨begun image, [], false, 0⟩ .never) := proceed_finishes rfl
  rw [Upload.drive_going rfl]
  exact hp.after _

def CutOrDecided (ending : Ending) (r : Result) : Prop :=
  r = .error .cancelled ∨ Decides ending r

lemma abandon_gives {t : Tracker} (h : t.status.isActive = true) (ending : Ending) :
    Activity.Gives (CutOrDecided ending) (abandon t) := by
  intro c u r hr
  rw [abandon_prompt h] at hr
  cases hr
  exact .inl rfl

lemma settle_gives {n : Nat} {p : Progress} (h : p.tracker.status.isActive = true)
    (ending : Ending) : Activity.Gives (CutOrDecided ending) (settle n ending p) := by
  intro c u r hr
  rw [settle_prompt] at hr
  obtain ⟨r', hd, hc⟩ :=
    conclude_closes (drain_active h n p.instant p.pending) n p.instant ending
  rw [hc] at hr
  cases hr
  exact .inr hd

lemma showPending_gives {t : Tracker} (h : t.status.isActive = true) (n now : Nat)
    (counts : List Nat) :
    Activity.Gives (fun r => r.1.status.isActive = true) (showPending n now t counts) := by
  induction counts generalizing t with
  | nil => exact .next fun _ => .pure h
  | cons count counts ih =>
    refine .next fun _ => .ite ?_ (.pure h)
    exact .next fun _ => ih (progress_active h count n now)

lemma proceed_gives (n : Nat) (ending : Ending) (steps : List Step) {p : Progress}
    (h : p.tracker.status.isActive = true) :
    Activity.Gives (CutOrDecided ending) (proceed n ending steps p) := by
  induction steps generalizing p with
  | nil => exact .next fun _ => settle_gives h ending
  | cons step steps ih =>
    have hshow := showPending_gives h n p.instant p.pending
    cases step with
    | send count => exact ih (p := p.send count) (by simpa [Progress.send, apply_ite] using h)
    | close => exact ih (p := { p with closed := true }) h
    | yield => exact .bind hshow fun r hr => .ite (ih hr) (abandon_gives hr ending)
    | sleep span =>
      cases span with
      | zero => exact ih h
      | succ span =>
        refine .bind hshow fun r hr => .ite ?_ (abandon_gives hr ending)
        exact .next fun _ => .ite (ih hr) (abandon_gives hr ending)
    | stall =>
      refine .bind hshow fun r hr => .ite ?_ (abandon_gives hr ending)
      exact .next fun _ => abandon_gives hr ending

theorem drive_gives (image : Image) (transfer : Transfer) :
    Activity.Gives (CutOrDecided transfer.ending) (drive image transfer) := by
  have ha : (begun image).status.isActive = true := rfl
  refine .next fun _ => .next fun _ => .ite ?_ (abandon_gives ha _)
  exact .next fun _ => proceed_gives _ _ _ ha

end FirmwareUpdate.Upload
