import FirmwareUpdate.Proofs.Upload.Operated
import FirmwareUpdate.Terminal.Presenter

/-! When the progress bar is up. However far the events of an upload have been shown, the bar is
there exactly while the tracker that gave back the last of them is active. -/

namespace FirmwareUpdate.Upload

inductive Shows : List Event → Tracker → Prop
  | new : Shows [] .new
  | step (os : List Tracker.Operation) (o : Tracker.Operation) {k l : List Event} :
      ((Tracker.new.run os).1.step o).2 = k ++ l → k ≠ [] →
      Shows ((Tracker.new.run os).2 ++ k) ((Tracker.new.run os).1.step o).1

lemma exists_shows {os : List Tracker.Operation} {es : List Event}
    (h : es <+: (Tracker.new.run os).2) : ∃ t, Shows es t := by
  induction os using List.reverseRecOn generalizing es with
  | nil =>
    obtain rfl := List.prefix_nil.mp h
    exact ⟨_, .new⟩
  | append_singleton os o ih =>
    rw [run_snoc] at h
    obtain ⟨l, hl⟩ := h
    rcases List.append_eq_append_iff.mp hl with ⟨k, hk, _⟩ | ⟨k, rfl, hk⟩
    · exact ih ⟨k, hk.symm⟩
    · cases k with
      | nil => exact ih (by simp)
      | cons e k => exact ⟨_, .step os o hk (by simp)⟩

end FirmwareUpdate.Upload

namespace FirmwareUpdate.Terminal

open Upload (Tracker Shows)

def Still (e : Upload.Event) : Prop :=
  ∀ p : Presenter, p.follow e = p

/-- An operation keeps the activity of a tracker and shows nothing that touches the bar, or it shows
the change before anything else. -/
inductive Moves (t u : Tracker) : List Upload.Event → Prop
  | still {es : List Upload.Event} : u.status.isActive = t.status.isActive → (∀ e ∈ es, Still e) →
      Moves t u es
  | turn {e : Upload.Event} {es : List Upload.Event} :
      (∀ p : Presenter, (p.follow e).bar = u.status.isActive) → (∀ d ∈ es, Still d) →
      Moves t u (e :: es)

lemma foldl_still {es : List Upload.Event} (h : ∀ e ∈ es, Still e) (p : Presenter) :
    es.foldl Presenter.follow p = p := by
  induction es generalizing p with
  | nil => rfl
  | cons e es ih =>
    rw [List.foldl_cons, h e List.mem_cons_self]
    exact ih (fun d hd => h d (List.mem_cons_of_mem e hd)) p

lemma Moves.bar {t u : Tracker} {es k l : List Upload.Event} {p : Presenter} (h : Moves t u es)
    (hp : p.bar = t.status.isActive) (he : es = k ++ l) (hk : k = [] → es = []) :
    (k.foldl Presenter.follow p).bar = u.status.isActive := by
  cases h with
  | still hu hes =>
    rw [foldl_still, hp, hu]
    intro e hm
    exact hes e (by simp [he, hm])
  | turn hu hes =>
    cases k with
    | nil => cases hk rfl
    | cons e k =>
      obtain ⟨rfl, rfl⟩ := List.cons_eq_cons.mp he
      rw [List.foldl_cons, foldl_still, hu]
      intro d hd
      exact hes d (List.mem_append_left l hd)

lemma report_still {s : Upload.Session} {loaded total now : Nat} {e : Upload.Event}
    (h : e ∈ s.report loaded total now) : Still e := by
  rcases Upload.mem_report.mp h with rfl | ⟨_, rfl⟩ | ⟨_, rfl⟩
  · exact fun _ => rfl
  · exact fun _ => rfl
  · exact fun _ => rfl

lemma closing_bar (p : Presenter) (r : Upload.Result) :
    (p.follow (.status (Upload.closing r))).bar = false := by
  have h := Upload.closing_isTerminal r
  cases hx : Upload.closing r with
  | idle | uploading | validating =>
    rw [hx] at h
    cases h
  | succeeded | failed | cancelled => rfl

lemma takes_moves {t u : Tracker} {o : Tracker.Operation} {es : List Upload.Event}
    (h : Upload.Takes t o u es) : Moves t u es := by
  cases h with
  | unheard => exact .still rfl (by simp)
  | started => exact .turn (fun _ => rfl) (by simp)
  | reported loaded total now hs hu =>
    refine .still (Upload.Takes.reported loaded total now hs hu).isActive ?_
    intro e he
    exact report_still he
  | @ended s o _ r hs ha ho hd =>
    have hu := (Upload.Takes.ended hs ha ho hd).inactive ho
    refine .turn (fun p => by rw [closing_bar, hu]) ?_
    intro e he
    obtain rfl := List.mem_singleton.mp he
    exact fun _ => rfl

lemma step_moves (t : Tracker) (o : Tracker.Operation) : Moves t (t.step o).1 (t.step o).2 :=
  takes_moves (Upload.step_takes t o)

lemma run_bar {t : Tracker} {p : Presenter} (h : p.bar = t.status.isActive)
    (os : List Tracker.Operation) :
    ((t.run os).2.foldl Presenter.follow p).bar = (t.run os).1.status.isActive := by
  induction os generalizing t p with
  | nil => exact h
  | cons o os ih =>
    have hs := (step_moves t o).bar h (List.append_nil _).symm id
    simp only [Tracker.run, List.foldl_append]
    exact ih hs

lemma shows_bar {es : List Upload.Event} {t : Tracker} (h : Shows es t) :
    (es.foldl Presenter.follow .new).bar = t.status.isActive := by
  cases h with
  | new => rfl
  | step os o hk hne =>
    have hos : ((Tracker.new.run os).2.foldl Presenter.follow .new).bar =
        (Tracker.new.run os).1.status.isActive := run_bar (p := .new) rfl os
    rw [List.foldl_append]
    exact (step_moves _ o).bar hos hk fun h => absurd h hne

end FirmwareUpdate.Terminal
