import FirmwareUpdate.Proofs.Upload.Drive
import FirmwareUpdate.Proofs.Upload.Reports

/-! What an upload that is not cancelled shows. However the device mixes its reports with pauses,
the events follow from the counts reported before it closes and from the end of the request. -/

namespace FirmwareUpdate.Upload

def reports : List Step → List Nat
  | [] | .close :: _ => []
  | .send count :: steps => count :: reports steps
  | .yield :: steps | .sleep _ :: steps | .stall :: steps => reports steps

def remainder (n : Nat) (counts : List Nat) : Ending → List Event
  | .answered _ => if n ∈ levels n counts then [] else [progressAt n n, .status .validating]
  | .broken _ | .aborted => []

def Entry.event? : Entry → Option Event
  | .event e => some e
  | .started _ | .delivered => none

def shown {α : Type} (r : Run Entry α) : List Event :=
  unsampled (r.entries.filterMap Entry.event?)

def flushed (n now : Nat) (t : Tracker) : Ending → Tracker × List Event
  | .answered _ => if t.status = .uploading then t.progress n n now else (t, [])
  | .broken _ | .aborted => (t, [])

lemma conclude_closes {t : Tracker} (ha : t.status.isActive = true) (n now : Nat)
    (ending : Ending) :
    ∃ r, Decides ending r ∧ conclude n now t ending =
      (((flushed n now t ending).1.finish (closing r) r).1,
        (flushed n now t ending).2 ++ [.status (closing r), .finished r]) := by
  cases ending with
  | answered answer =>
    by_cases hu : t.status = .uploading
    · have hp : (t.progress n n now).1.status.isActive = true := by
        rw [(progress_takes t n n now).isActive, ha]
      obtain ⟨r, hd, hr⟩ := answer_active hp answer
      refine ⟨r, hd, ?_⟩
      simp [Upload.conclude, flushed, hu, Tracker.run, Tracker.step, hr, Tracker.finish]
    · obtain ⟨r, hd, hr⟩ := answer_active ha answer
      refine ⟨r, hd, ?_⟩
      simp [Upload.conclude, flushed, hu, Tracker.run, Tracker.step, hr, Tracker.finish]
  | broken reason =>
    refine ⟨_, .broken reason, ?_⟩
    simp [Upload.conclude, flushed, Tracker.fail, ha, closing, Tracker.finish]
  | aborted =>
    refine ⟨_, .aborted, ?_⟩
    simp [Upload.conclude, flushed, Tracker.cancel, ha, closing, Tracker.finish]

lemma Follows.isActive {n : Nat} {counts : List Nat} {t : Tracker} (h : Follows n counts t) :
    t.status.isActive = true := by
  obtain ⟨⟨s, hs, hcomplete, hpartway⟩, _⟩ := h
  by_cases hm : n ∈ levels n counts
  · simp [Tracker.status, hs, hcomplete hm, Status.isActive]
  · simp [Tracker.status, hs, (hpartway hm).1, Status.isActive]

lemma Follows.flushed {n : Nat} {counts : List Nat} {t : Tracker} (h : Follows n counts t)
    (now : Nat) (ending : Ending) :
    unsampled (flushed n now t ending).2 = remainder n counts ending := by
  cases ending with
  | broken | aborted => rfl
  | answered answer =>
    obtain ⟨s, hs, hcomplete, hpartway⟩ := h.session
    by_cases hm : n ∈ levels n counts
    · have hu : t.status ≠ .uploading := by simp [Tracker.status, hs, hcomplete hm]
      rw [Upload.flushed, if_neg hu, remainder, if_pos hm]
      rfl
    · have hu : t.status = .uploading := by simp [Tracker.status, hs, (hpartway hm).1]
      have hr : reached n (counts ++ [n]) = n := by
        rw [reached_snoc]
        simp [reached]
      have hes := (h.progress n now).2
      rw [announced_of_notMem hm, hr, if_pos le_rfl, List.append_right_inj] at hes
      rw [Upload.flushed, if_pos hu, remainder, if_neg hm]
      exact hes.symm

lemma Follows.conclude {n : Nat} {counts : List Nat} {t : Tracker} (h : Follows n counts t)
    (now : Nat) (ending : Ending) :
    ∃ r, Decides ending r ∧ verdict (conclude n now t ending).1 = r ∧
      unsampled (conclude n now t ending).2 =
        remainder n counts ending ++ [.status (closing r), .finished r] := by
  obtain ⟨r, hd, hc⟩ := conclude_closes h.isActive n now ending
  refine ⟨r, hd, ?_, ?_⟩
  · rw [hc]
    rfl
  · rw [hc, unsampled_append, h.flushed now ending]
    rfl

@[simp] lemma shown_later {α : Type} (r : Run Entry α) (t : Nat) : shown (r.later t) = shown r := by
  simp [shown]

lemma shown_after {α : Type} (r : Run Entry α) (es : List Event) :
    shown (r.after (es.map fun e => ⟨0, .event e⟩)) = unsampled es ++ shown r := by
  simp [shown, unsampled_append, List.filterMap_append, List.filterMap_map, Function.comp_def,
    Entry.event?]

lemma shown_after_call {α : Type} {e : Entry} (he : e.event? = none) (r : Run Entry α) (t : Nat) :
    shown (r.after [⟨t, e⟩]) = shown r := by
  simp [shown, List.filterMap_cons_none he]

lemma showPending_going {β : Type} {c : Cancellation} {n now : Nat} {t : Tracker}
    {counts : List Nat} (hc : (c.after 0 (drain n now t counts).2.length).isDue = false)
    (f : Tracker × Bool → Activity Entry β) :
    (showPending n now t counts >>= f) c =
      (f ((drain n now t counts).1, true) (c.after 0 (drain n now t counts).2.length)).after
        ((drain n now t counts).2.map fun e => ⟨0, .event e⟩) := by
  have hgoes := Cancellation.not_due_of_after hc
  induction counts generalizing t c with
  | nil =>
    rw [showPending, bind_assoc, Activity.goesOn_bind, pure_bind, hgoes]
    simp [drain, Tracker.run]
  | cons count counts ih =>
    have hd : (drain n now t (count :: counts)).2 =
        (t.progress count n now).2 ++ (drain n now (t.progress count n now).1 counts).2 := rfl
    rw [hd, List.length_append, ← Nat.zero_add 0, ← Cancellation.after_after] at hc
    rw [showPending, bind_assoc, Activity.goesOn_bind, hgoes]
    simp only [Bool.not_false, if_true]
    rw [bind_assoc, showAll_bind, ih hc (Cancellation.not_due_of_after hc), hd]
    simp [drain, Tracker.run, Tracker.step]

lemma showPending_never {β : Type} (n now : Nat) (t : Tracker) (counts : List Nat)
    (f : Tracker × Bool → Activity Entry β) :
    (showPending n now t counts >>= f) .never =
      (f ((drain n now t counts).1, true) .never).after
        ((drain n now t counts).2.map fun e => ⟨0, .event e⟩) :=
  showPending_going (c := .never) rfl f

def Progress.drained (p : Progress) (n : Nat) : Progress :=
  { p with tracker := (drain n p.instant p.tracker p.pending).1, pending := [] }

lemma yield_never (n : Nat) (ending : Ending) (steps : List Step) (p : Progress) :
    proceed n ending (.yield :: steps) p .never =
      (proceed n ending steps (p.drained n) .never).after
        ((drain n p.instant p.tracker p.pending).2.map fun e => ⟨0, .event e⟩) := by
  rw [proceed, showPending_never]
  rfl

lemma sleep_never (n : Nat) (ending : Ending) (span : Nat) (steps : List Step) (p : Progress) :
    proceed n ending (.sleep (span + 1) :: steps) p .never =
      ((proceed n ending steps { p.drained n with elapsed := p.elapsed + (span + 1) } .never).later
        (span + 1)).after
        ((drain n p.instant p.tracker p.pending).2.map fun e => ⟨0, .event e⟩) := by
  rw [proceed, showPending_never]
  simp only [if_true, Activity.await_bind_never]
  rfl

lemma stall_never (n : Nat) (ending : Ending) (steps : List Step) (p : Progress) :
    proceed n ending (.stall :: steps) p .never =
      ⟨(drain n p.instant p.tracker p.pending).2.map fun e => ⟨0, .event e⟩, none⟩ := by
  rw [proceed, showPending_never]
  exact congrArg (Run.mk · none) (List.append_nil _)

def Announces (n : Nat) (counts all : List Nat) (ending : Ending) (r : Run Entry Result) : Prop :=
  ∃ t result, r.ending = some (t, result) ∧ Decides ending result ∧
    announced n counts ++ shown r = announced n all ++ remainder n all ending ++
      [.status (closing result), .finished result]

lemma Announces.later {n : Nat} {counts all : List Nat} {ending : Ending} {r : Run Entry Result}
    (h : Announces n counts all ending r) (t : Nat) :
    Announces n counts all ending (r.later t) := by
  obtain ⟨u, result, hu, hd, hs⟩ := h
  exact ⟨t + u, result, by simp [hu], hd, by rw [shown_later, hs]⟩

lemma Announces.after {n : Nat} {counts more all : List Nat} {ending : Ending}
    {r : Run Entry Result} (h : Announces n (counts ++ more) all ending r) {es : List Event}
    (hes : announced n (counts ++ more) = announced n counts ++ unsampled es) :
    Announces n counts all ending (r.after (es.map fun e => ⟨0, .event e⟩)) := by
  obtain ⟨t, result, ht, hd, hs⟩ := h
  refine ⟨t, result, ht, hd, ?_⟩
  rw [shown_after, ← List.append_assoc, ← hes, hs]

lemma Follows.settle {n : Nat} {counts : List Nat} {p : Progress} (h : Follows n counts p.tracker)
    (ending : Ending) :
    Announces n counts (counts ++ p.pending) ending (settle n ending p .never) := by
  obtain ⟨hd, hes⟩ := h.drain p.instant p.pending
  obtain ⟨r, hr, hv, hfs⟩ := hd.conclude p.instant ending
  refine ⟨0, r, ?_, hr, ?_⟩
  · simp [Upload.settle, showAll_bind, hv]
  · simp only [Upload.settle, showAll_bind, Cancellation.never_after, Activity.pure_run,
      shown_after, unsampled_append, hfs]
    rw [hes]
    simp [shown, Run.entries, unsampled]

lemma proceed_never {n : Nat} {counts : List Nat} {steps : List Step} {p : Progress}
    (hs : .stall ∉ steps) (h : Follows n counts p.tracker) (ending : Ending) :
    Announces n counts (counts ++ p.pending ++ if p.closed then [] else reports steps) ending
      (proceed n ending steps p .never) := by
  induction steps generalizing counts p with
  | nil =>
    obtain ⟨t, r, ht, hd, hes⟩ := h.settle ending
    rw [proceed, Activity.write_bind]
    refine ⟨t, r, ht, hd, ?_⟩
    rw [shown_after_call rfl, Cancellation.never_after, hes]
    simp [reports]
  | cons step steps ih =>
    have hs' : .stall ∉ steps := fun hm => hs (List.mem_cons_of_mem _ hm)
    obtain ⟨hd, hes⟩ := h.drain p.instant p.pending
    cases step with
    | send count =>
      have hp := ih (p := p.send count) hs' (by simpa [Progress.send, apply_ite] using h)
      cases hc : p.closed <;> simpa [proceed, Progress.send, hc, reports] using hp
    | close =>
      have hp := ih (p := { p with closed := true }) hs' h
      simpa [proceed, reports] using hp
    | stall => exact absurd List.mem_cons_self hs
    | yield =>
      have hp := ih (p := p.drained n) hs' hd
      rw [Progress.drained, List.append_nil] at hp
      rw [yield_never]
      exact hp.after hes
    | sleep span =>
      cases span with
      | zero => simpa [proceed, reports] using ih hs' h
      | succ span =>
        have hp := ih (p := { p.drained n with elapsed := p.elapsed + (span + 1) }) hs' hd
        rw [Progress.drained, List.append_nil] at hp
        rw [sleep_never]
        exact (hp.later (span + 1)).after hes

lemma follows_begun (image : Image) : Follows image.data.size [] (begun image) := by
  refine ⟨⟨_, rfl, ?_, ?_⟩, rfl⟩
  · simp
  · simp [reached]

/-- The events shown, the samples left out, and the result. -/
theorem drive_events (image : Image) (transfer : Transfer) (hs : .stall ∉ transfer.steps) :
    ∃ t r, ((drive image transfer).run .never).ending = some (t, r) ∧
      shown ((drive image transfer).run .never) =
        .status .uploading :: announced image.data.size (reports transfer.steps) ++
          remainder image.data.size (reports transfer.steps) transfer.ending ++
          [.status (closing r), .finished r] ∧
      Decides transfer.ending r ∧
      (r = .ok () ↔ ∃ answer v, transfer.ending = .answered answer ∧ 200 ≤ answer.status ∧
        answer.status ≤ 299 ∧ UploadVerdict.decode answer.body.toList = .ok v ∧
        v.success = true) := by
  let p : Progress := ⟨begun image, [], false, 0⟩
  obtain ⟨t, r, ht, hd, hes⟩ := proceed_never (p := p) hs (follows_begun image) transfer.ending
  have hr : (drive image transfer).run .never =
      ((proceed image.data.size transfer.ending transfer.steps p .never).after
        [⟨0, .started image⟩]).after ([Event.status .uploading].map fun e => ⟨0, .event e⟩) :=
    drive_run image transfer .never
  refine ⟨t, r, ?_, ?_, hd, hd.ok_iff⟩
  · rw [hr]
    exact ht
  · rw [hr, shown_after, shown_after_call rfl]
    simpa [announced, upTo, unsampled, Event.isSample, p] using hes

def shortTransfer : Transfer where
  steps := [.send 3, .yield, .send 1, .sleep 700, .close, .yield, .send 4]
  ending := .answered ⟨500, ""⟩

theorem drive_events_shortTransfer :
    .stall ∉ shortTransfer.steps ∧
    ∃ t, ((drive ⟨"fw.bin", ⟨#[7, 7, 7, 7]⟩⟩ shortTransfer).run .never).ending =
        some (t, .error (.http 500)) ∧
      shown ((drive ⟨"fw.bin", ⟨#[7, 7, 7, 7]⟩⟩ shortTransfer).run .never) =
        [.status .uploading, progressAt 4 3, progressAt 4 3, progressAt 4 4, .status .validating,
          .status .failed, .finished (.error (.http 500))] := by
  have hs : .stall ∉ shortTransfer.steps := by simp [shortTransfer]
  obtain ⟨t, r, ht, he, hd, _⟩ := drive_events ⟨"fw.bin", ⟨#[7, 7, 7, 7]⟩⟩ shortTransfer hs
  obtain rfl : r = .error (.http 500) := by
    cases hd with
    | http => rfl
    | accepted _ h3 | rejected _ h3 | malformed _ h3 => exact absurd h3 (by decide)
  exact ⟨hs, t, ht, he⟩

end FirmwareUpdate.Upload
