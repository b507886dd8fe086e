import FirmwareUpdate.Proofs.Upload.Operation

/-! What a tracker ever shows. In whatever order its operations come, and however often, the events
that they give back spell one upload: its start, its reports, the verdict that is awaited, and one
end with one result, after which nothing changes. -/

namespace FirmwareUpdate.Upload

inductive Reported : List Event → Prop
  | nothing : Reported []
  | progress {es : List Event} (sent total : Nat) (percent : Float) :
      Reported es → Reported (es ++ [.progress sent total percent])
  | sampled {es : List Event} (sent total : Nat) (percent percent' speed : Float)
      (left : Option Float) :
      Reported es → Reported (es ++ [.progress sent total percent, .sample percent' speed left])

structure Closes (x : Status) (r : Result) : Prop where
  succeeded : x = .succeeded ↔ r = .ok ()
  cancelled : x = .cancelled ↔ r = .error .cancelled
  failed : x = .failed ↔ ∃ f, f ≠ .cancelled ∧ r = .error f

/-- The events of an upload so far, and its result once there is one. -/
inductive Spells : List Event → Option Result → Prop
  | idle : Spells [] none
  | uploading {es : List Event} : Reported es → Spells (.status .uploading :: es) none
  | validating {es : List Event} : Reported es → es ≠ [] →
      Spells (.status .uploading :: es ++ [.status .validating]) none
  | closed {es : List Event} {x : Status} {r : Result} : Spells es none → es ≠ [] → Closes x r →
      Spells (es ++ [.status x, .finished r]) (some r)

inductive Stands : List Event → Tracker → Prop
  | idle : Stands [] .new
  | uploading {es : List Event} {s : Session} : Reported es → s.status = .uploading →
      Stands (.status .uploading :: es) ⟨some s, none⟩
  | validating {es : List Event} {s : Session} : Reported es → es ≠ [] → s.status = .validating →
      Stands (.status .uploading :: es ++ [.status .validating]) ⟨some s, none⟩
  | closed {es : List Event} {s : Session} {r : Result} : Spells es (some r) →
      s.status.isTerminal = true → Stands es ⟨some s, some r⟩

variable {es : List Event} {t : Tracker}

lemma Stands.spells (h : Stands es t) : Spells es t.outcome := by
  cases h with
  | idle => exact .idle
  | uploading hes => exact .uploading hes
  | validating hes hne => exact .validating hes hne
  | closed hes => exact hes

lemma Reported.tally (h : Reported es) (s : Session) (loaded total now : Nat) :
    Reported (es ++ s.tally loaded total now) := by
  simp only [Session.tally]
  split
  · exact h.sampled ..
  · exact h.progress ..

lemma Reported.stands {s : Session} (h : Reported es) (hu : s.status = .uploading)
    (loaded total now : Nat) :
    Stands (.status .uploading :: es ++ s.report loaded total now)
      ⟨some (s.reported loaded total now), none⟩ := by
  have ht := h.tally s loaded total now
  have hs : (s.reported loaded total now).status =
      if total ≤ max s.sent (min loaded total) then .validating else s.status := rfl
  rw [Session.report, ← List.append_assoc, List.cons_append]
  by_cases hd : total ≤ max s.sent (min loaded total)
  · rw [if_pos hd] at hs ⊢
    exact .validating ht (by simp [Session.tally]) hs
  · rw [if_neg hd] at hs ⊢
    rw [List.append_nil]
    exact .uploading ht (hs.trans hu)

lemma closes_closing (r : Result) : Closes (closing r) r := by
  cases r with
  | ok u => exact ⟨by simp [closing], by simp [closing], by simp [closing]⟩
  | error f =>
    cases f with
    | cancelled => exact ⟨by simp [closing], by simp [closing], by simp [closing]⟩
    | _ => exact ⟨by simp [closing], by simp [closing], by simp [closing]⟩

lemma Stands.finish {s : Session} {r : Option Result} (h : Stands es ⟨some s, r⟩)
    (ha : s.status.isActive = true) (a : Result) :
    Stands (es ++ [.status (closing a), .finished a])
      ⟨some { s with status := closing a }, some a⟩ := by
  have hc := closes_closing a
  have ht := closing_isTerminal a
  cases h with
  | uploading hes => exact .closed ((Spells.uploading hes).closed (by simp) hc) ht
  | validating hes hne => exact .closed ((Spells.validating hes hne).closed (by simp) hc) ht
  | closed hes hs =>
    rw [(terminal_inactive hs).1] at ha
    cases ha

lemma Stands.takes {u : Tracker} {o : Tracker.Operation} {fs : List Event} (h : Stands es t)
    (ht : Takes t o u fs) : Stands (es ++ fs) u := by
  cases ht with
  | unheard =>
    rw [List.append_nil]
    exact h
  | started name size now hn =>
    cases h with
    | idle => exact .uploading .nothing rfl
    | uploading | validating | closed => cases hn
  | reported loaded total now hs hu =>
    cases h with
    | idle => cases hs
    | uploading hes =>
      cases hs
      exact hes.stands hu loaded total now
    | validating _ _ hv =>
      cases hs
      rw [hu] at hv
      cases hv
    | closed _ hc =>
      cases hs
      exact absurd hu (terminal_inactive hc).2
  | @ended s _ _ r hs ha =>
    cases t with
    | mk session outcome =>
      cases hs
      exact h.finish ha r

lemma Stands.run (h : Stands es t) (os : List Tracker.Operation) :
    Stands (es ++ (t.run os).2) (t.run os).1 := by
  induction os generalizing es t with
  | nil => simpa [Tracker.run] using h
  | cons o os ih =>
    have hs := ih (h.takes (step_takes t o))
    rw [List.append_assoc] at hs
    exact hs

lemma Stands.step_closed (h : Stands es t) (ho : t.outcome ≠ none) (o : Tracker.Operation) :
    t.step o = (t, []) := by
  cases h with
  | idle | uploading | validating => exact absurd rfl ho
  | @closed es s r hes hs =>
    have hd : ¬ Tracker.Hears ⟨some s, some r⟩ o := terminal_deaf rfl hs o
    obtain ⟨ht, he⟩ := (step_takes ⟨some s, some r⟩ o).of_deaf hd
    exact Prod.ext ht he

lemma Stands.run_closed (h : Stands es t) (ho : t.outcome ≠ none) (os : List Tracker.Operation) :
    t.run os = (t, []) := by
  induction os with
  | nil => rfl
  | cons o os ih =>
    simp only [Tracker.run, h.step_closed ho o, ih]
    rfl

lemma Reported.not_finished (h : Reported es) (r : Result) : .finished r ∉ es := by
  induction h with
  | nothing => simp
  | progress _ _ _ _ ih => simp [ih]
  | sampled _ _ _ _ _ _ _ ih => simp [ih]

lemma Spells.finished {o : Option Result} (h : Spells es o) {r : Result}
    (hr : .finished r ∈ es) : o = some r := by
  induction h with
  | idle => cases hr
  | uploading hes => simp [hes.not_finished r] at hr
  | validating hes => simp [hes.not_finished r] at hr
  | closed _ _ _ ih =>
    simp only [List.mem_append, List.mem_cons, Event.finished.injEq, reduceCtorEq, false_or,
      List.not_mem_nil, or_false] at hr
    rcases hr with hr | rfl
    · cases ih hr
    · rfl

theorem events_spell_upload (os more : List Tracker.Operation) :
    Spells (Tracker.new.run os).2 (Tracker.new.run os).1.outcome ∧
    ∀ r, .finished r ∈ (Tracker.new.run os).2 →
      (Tracker.new.run (os ++ more)).1.outcome = some r ∧
      (Tracker.new.run (os ++ more)).2 = (Tracker.new.run os).2 := by
  have hs : Stands (Tracker.new.run os).2 (Tracker.new.run os).1 := Stands.idle.run os
  refine ⟨hs.spells, ?_⟩
  intro r hr
  have ho := hs.spells.finished hr
  have hc := hs.run_closed (by simp [ho]) more
  rw [run_append, hc]
  exact ⟨ho, List.append_nil _⟩

end FirmwareUpdate.Upload
