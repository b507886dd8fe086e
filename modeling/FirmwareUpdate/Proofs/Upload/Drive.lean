import FirmwareUpdate.Proofs.Activity
import FirmwareUpdate.Upload.Transfer

/-! How an upload begins. The token is looked at once before the device hears of the image, which
it does at most once. -/

namespace FirmwareUpdate.Upload

def begun (image : Image) : Tracker :=
  (Tracker.new.start image.name image.data.size 0).1

lemma showAll_bind {β : Type} (es : List Event) (f : Unit → Activity Entry β)
    (c : Cancellation) :
    (showAll es >>= f) c =
      (f () (c.after 0 es.length)).after (es.map fun e => ⟨0, .event e⟩) := by
  rw [showAll, Activity.writeAll_bind]
  simp [Function.comp_def]

lemma drive_run (image : Image) (transfer : Transfer) (c : Cancellation) :
    drive image transfer c =
      (if (c.after 0 1).isDue then abandon (begun image) (c.after 0 1)
      else (proceed image.data.size transfer.ending transfer.steps ⟨begun image, [], false, 0⟩
        (c.after 0 2)).after [⟨0, .started image⟩]).after [⟨0, .event (.status .uploading)⟩] := by
  change (showAll [.status .uploading] >>= fun _ => Activity.goesOn >>= fun b =>
    if b = true then Activity.write (.started image) >>= fun _ =>
      proceed image.data.size transfer.ending transfer.steps ⟨begun image, [], false, 0⟩
    else abandon (begun image)) c = _
  rw [showAll_bind, Activity.goesOn_bind]
  cases (c.after 0 1).isDue with
  | true => simp
  | false => simp [Activity.write_bind]

lemma drive_due {c : Cancellation} (h : (c.after 0 1).isDue = true) (image : Image)
    (transfer : Transfer) :
    drive image transfer c =
      ⟨[⟨0, .event (.status .uploading)⟩, ⟨0, .event (.status .cancelled)⟩,
        ⟨0, .event (.finished (.error .cancelled))⟩], some (0, .error .cancelled)⟩ := by
  have ha : abandon (begun image) = (showAll [.status .cancelled, .finished (.error .cancelled)] >>=
    fun _ => pure (.error .cancelled)) := rfl
  rw [drive_run, if_pos h, ha, showAll_bind]
  simp [Run.after]

lemma drive_going {c : Cancellation} (h : (c.after 0 1).isDue = false) (image : Image)
    (transfer : Transfer) :
    drive image transfer c =
      (proceed image.data.size transfer.ending transfer.steps ⟨begun image, [], false, 0⟩
        (c.after 0 2)).after [⟨0, .event (.status .uploading)⟩, ⟨0, .started image⟩] := by
  rw [drive_run, if_neg (by simp [h])]
  simp

def Entry.isReport : Entry → Prop
  | .started _ => False
  | .delivered | .event _ => True

lemma showAll_keeps (es : List Event) : Activity.Keeps Entry.isReport (showAll es) := by
  apply Activity.Keeps.writeAll
  intro e he
  obtain ⟨d, _, rfl⟩ := List.mem_map.mp he
  trivial

lemma abandon_keeps (t : Tracker) : Activity.Keeps Entry.isReport (abandon t) :=
  .bind (showAll_keeps _) fun _ => .pure _

lemma showPending_keeps (n now : Nat) (t : Tracker) (counts : List Nat) :
    Activity.Keeps Entry.isReport (showPending n now t counts) := by
  induction counts generalizing t with
  | nil => exact .bind (.await 0) fun _ => .pure _
  | cons count counts ih =>
    refine .bind (.await 0) fun _ => .ite ?_ (.pure _)
    exact .bind (showAll_keeps _) fun _ => ih _

lemma proceed_keeps (n : Nat) (ending : Ending) (steps : List Step) (p : Progress) :
    Activity.Keeps Entry.isReport (proceed n ending steps p) := by
  induction steps generalizing p with
  | nil =>
    refine .bind (.write trivial) fun _ => ?_
    exact .bind (showAll_keeps _) fun _ => .pure _
  | cons step steps ih =>
    cases step with
    | send count => exact ih _
    | close => exact ih _
    | yield => exact .bind (showPending_keeps _ _ _ _) fun _ => .ite (ih _) (abandon_keeps _)
    | sleep span =>
      cases span with
      | zero => exact ih _
      | succ span =>
        refine .bind (showPending_keeps _ _ _ _) fun _ => .ite ?_ (abandon_keeps _)
        exact .bind (.await _) fun _ => .ite (ih _) (abandon_keeps _)
    | stall =>
      refine .bind (showPending_keeps _ _ _ _) fun _ => .ite ?_ ?_
      · exact .bind .awaitCancellation fun _ => abandon_keeps _
      · exact abandon_keeps _

end FirmwareUpdate.Upload
