import FirmwareUpdate.Upload.Transfer
import Mathlib.Tactic

/-! What one operation does to a tracker. It is listened to at some moments only, and then it starts
the session, or counts a report in, or ends the session with a result; else it changes nothing and
gives back nothing. -/

namespace FirmwareUpdate.Upload

inductive Decides : Ending → Result → Prop
  | accepted {answer : Response} {v : UploadVerdict} : 200 ≤ answer.status → answer.status ≤ 299 →
      UploadVerdict.decode answer.body.toList = .ok v → v.success = true →
      Decides (.answered answer) (.ok ())
  | rejected {answer : Response} {v : UploadVerdict} {message : String} :
      200 ≤ answer.status → answer.status ≤ 299 →
      UploadVerdict.decode answer.body.toList = .ok v → v.success = false → message ≠ "" →
      (v.error = some message ∨
        (v.error = none ∨ v.error = some "") ∧ message = "Upload failed") →
      Decides (.answered answer) (.error (.rejected message))
  | malformed {answer : Response} {f : Json.Fault} : 200 ≤ answer.status → answer.status ≤ 299 →
      UploadVerdict.decode answer.body.toList = .error f →
      Decides (.answered answer) (.error (.malformed (f.message answer.body.toList)))
  | http {answer : Response} : answer.status < 200 ∨ 299 < answer.status →
      Decides (.answered answer) (.error (.http answer.status))
  | broken (reason : String) : Decides (.broken reason) (.error (.network reason))
  | aborted : Decides .aborted (.error .cancelled)

def closing : Result → Status
  | .ok () => .succeeded
  | .error .cancelled => .cancelled
  | .error _ => .failed

lemma messageOr_cases (default : String) (given : Option String) :
    given = some (messageOr default given) ∨
      (given = none ∨ given = some "") ∧ messageOr default given = default := by
  cases given with
  | none => simp [messageOr]
  | some m => by_cases hm : m = "" <;> simp [messageOr, hm]

lemma messageOr_ne_empty {default : String} (h : default ≠ "") (given : Option String) :
    messageOr default given ≠ "" := by
  cases given with
  | none => exact h
  | some m => by_cases hm : m = "" <;> simp [messageOr, hm, h]

lemma classify_decides (answer : Response) :
    Decides (.answered answer) (Tracker.classify answer) := by
  by_cases hs : 200 ≤ answer.status ∧ answer.status < 300
  · obtain ⟨h2, h3⟩ := hs
    have h3' : answer.status ≤ 299 := by omega
    cases hd : UploadVerdict.decode answer.body.toList with
    | error f =>
      simp only [Tracker.classify, h2, h3, hd]
      exact .malformed h2 h3' hd
    | ok v =>
      cases hv : v.success with
      | true =>
        simp only [Tracker.classify, h2, h3, hd, hv]
        exact .accepted h2 h3' hd hv
      | false =>
        simp only [Tracker.classify, h2, h3, hd, hv]
        exact .rejected h2 h3' hd hv (messageOr_ne_empty (by decide) v.error)
          (messageOr_cases Tracker.defaultRejection v.error)
  · simp only [Tracker.classify, if_neg hs]
    exact .http (by omega)

lemma Decides.ok_iff {ending : Ending} {r : Result} (h : Decides ending r) :
    r = .ok () ↔ ∃ answer v, ending = .answered answer ∧ 200 ≤ answer.status ∧
      answer.status ≤ 299 ∧ UploadVerdict.decode answer.body.toList = .ok v ∧
      v.success = true := by
  constructor
  · rintro rfl
    cases h with
    | accepted h2 h3 hd hv => exact ⟨_, _, rfl, h2, h3, hd, hv⟩
  · rintro ⟨answer, v, rfl, h2, h3, hd, hv⟩
    cases h with
    | accepted => rfl
    | rejected _ _ hd' hv' =>
      obtain rfl := Except.ok.inj (hd.symm.trans hd')
      simp [hv] at hv'
    | malformed _ _ hd' => cases hd.symm.trans hd'
    | http hs => omega

lemma terminal_inactive {x : Status} (h : x.isTerminal = true) :
    x.isActive = false ∧ x ≠ .uploading := by
  cases x with
  | idle | uploading | validating => cases h
  | succeeded | failed | cancelled => exact ⟨rfl, by simp⟩

lemma closing_isTerminal (r : Result) : (closing r).isTerminal = true := by
  cases r with
  | ok u => rfl
  | error f => cases f <;> rfl

lemma terminal_ne_idle {x : Status} (h : x.isTerminal = true) : x ≠ .idle := by
  rintro rfl
  cases h

lemma active_ne_idle {x : Status} (h : x.isActive = true) : x ≠ .idle := by
  rintro rfl
  cases h

variable {t u : Tracker} {o : Tracker.Operation} {es : List Event} {s : Session}
  {ending : Ending}

lemma status_of_session (hs : t.session = some s) : t.status = s.status := by
  simp [Tracker.status, hs]

lemma exists_session (h : t.status ≠ .idle) : ∃ s, t.session = some s := by
  cases hs : t.session with
  | none => simp [Tracker.status, hs] at h
  | some s => exact ⟨s, rfl⟩

def progressAt (n level : Nat) : Event :=
  .progress level n (percent level n)

def Apart (u v : Nat) : Prop := u + 500000000 ≤ v

instance (u v : Nat) : Decidable (Apart u v) :=
  inferInstanceAs (Decidable (u + 500000000 ≤ v))

def Session.reported (s : Session) (loaded total now : Nat) : Session :=
  let sent := max s.sent (min loaded total)
  { s with
    total, sent
    sampledAt := if Apart s.sampledAt now then now else s.sampledAt
    sampledBytes := if Apart s.sampledAt now then sent else s.sampledBytes
    status := if total ≤ sent then .validating else s.status }

def Session.tally (s : Session) (loaded total now : Nat) : List Event :=
  progressAt total (max s.sent (min loaded total)) ::
    if Apart s.sampledAt now then [Tracker.sampleOf (Tracker.advance s loaded total) now] else []

def Session.report (s : Session) (loaded total now : Nat) : List Event :=
  s.tally loaded total now ++
    if total ≤ max s.sent (min loaded total) then [.status .validating] else []

lemma resample_eq (s : Session) (now : Nat) :
    Tracker.resample s now =
      if Apart s.sampledAt now then
        ({ s with sampledAt := now, sampledBytes := s.sent }, [Tracker.sampleOf s now])
      else (s, []) := by
  have hd : sampleInterval ≤ now - s.sampledAt ↔ Apart s.sampledAt now := by
    simp only [sampleInterval, Apart]
    omega
  simp only [Tracker.resample, hd]

lemma progress_reported (hs : t.session = some s) (hu : s.status = .uploading)
    (loaded total now : Nat) :
    t.progress loaded total now =
      (⟨some (s.reported loaded total now), t.outcome⟩, s.report loaded total now) := by
  simp only [Tracker.progress, hs]
  rw [if_pos hu]
  simp only [resample_eq, Tracker.complete, Session.reported, Session.report, Session.tally]
  by_cases hd : Apart s.sampledAt now <;>
    by_cases hc : total ≤ max s.sent (min loaded total) <;>
    simp [hd, hc, progressAt, Session.percent, Tracker.advance]

lemma reported_isActive (hu : s.status = .uploading) (loaded total now : Nat) :
    (s.reported loaded total now).status.isActive = true := by
  simp only [Session.reported, hu]
  split
  · rfl
  · rfl

lemma report_ne_nil (s : Session) (loaded total now : Nat) : s.report loaded total now ≠ [] := by
  intro h
  rw [Session.report, Session.tally, List.cons_append] at h
  cases h

lemma mem_report {e : Event} {loaded total now : Nat} :
    e ∈ s.report loaded total now ↔
      e = progressAt total (s.reported loaded total now).sent ∨
      (Apart s.sampledAt now ∧ e = Tracker.sampleOf (Tracker.advance s loaded total) now) ∨
      (total ≤ (s.reported loaded total now).sent ∧ e = .status .validating) := by
  rw [Session.report, List.mem_append, Session.tally, List.mem_cons, List.mem_ite_nil_right,
    List.mem_ite_nil_right, List.mem_singleton, List.mem_singleton, or_assoc]
  rfl

def Tracker.Operation.ending? : Tracker.Operation → Option Ending
  | .answer r => some (.answered r)
  | .fail reason => some (.broken reason)
  | .cancel => some .aborted
  | .start .. | .progress .. => none

lemma finish_session (hs : t.session = some s) (r : Result) :
    t.finish (closing r) r =
      (⟨some { s with status := closing r }, some r⟩, [.status (closing r), .finished r]) := by
  simp [Tracker.finish, hs]

lemma answer_active {t : Tracker} (ha : t.status.isActive = true) (answer : Response) :
    ∃ r, Decides (.answered answer) r ∧ t.answer answer = t.finish (closing r) r := by
  have hd := classify_decides answer
  refine ⟨_, hd, ?_⟩
  cases hc : Tracker.classify answer with
  | ok u => simp [Tracker.answer, ha, hc, closing]
  | error f =>
    rw [hc] at hd
    cases hd <;> simp [Tracker.answer, ha, hc, closing]

lemma step_active (ha : t.status.isActive = true) (ho : o.ending? = some ending) :
    ∃ r, Decides ending r ∧ t.step o = t.finish (closing r) r := by
  cases o with
  | start | progress => cases ho
  | answer answer =>
    cases ho
    exact answer_active ha answer
  | fail reason =>
    cases ho
    exact ⟨_, .broken reason, by simp [Tracker.step, Tracker.fail, ha, closing]⟩
  | cancel =>
    cases ho
    exact ⟨_, .aborted, by simp [Tracker.step, Tracker.cancel, ha, closing]⟩

lemma step_inactive (ha : t.status.isActive = false) (ho : o.ending? = some ending) :
    t.step o = (t, []) := by
  cases o with
  | start | progress => cases ho
  | answer => simp [Tracker.step, Tracker.answer, ha]
  | fail => simp [Tracker.step, Tracker.fail, ha]
  | cancel => simp [Tracker.step, Tracker.cancel, ha]

def Tracker.Hears (t : Tracker) : Tracker.Operation → Prop
  | .start .. => t.session = none
  | .progress .. => t.status = .uploading
  | .answer _ | .fail _ | .cancel => t.status.isActive = true

lemma hears_ending (ho : o.ending? = some ending) : t.Hears o ↔ t.status.isActive = true := by
  cases o with
  | start | progress => cases ho
  | answer | fail | cancel => rfl

inductive Takes (t : Tracker) : Tracker.Operation → Tracker → List Event → Prop
  | unheard {o : Tracker.Operation} : ¬ t.Hears o → Takes t o t []
  | started (name : String) (size now : Nat) : t.session = none →
      Takes t (.start name size now) ⟨some ⟨name, size, now, 0, now, 0, .uploading⟩, t.outcome⟩
        [.status .uploading]
  | reported {s : Session} (loaded total now : Nat) : t.session = some s → s.status = .uploading →
      Takes t (.progress loaded total now) ⟨some (s.reported loaded total now), t.outcome⟩
        (s.report loaded total now)
  | ended {s : Session} {o : Tracker.Operation} {ending : Ending} {r : Result} :
      t.session = some s → s.status.isActive = true → o.ending? = some ending → Decides ending r →
      Takes t o ⟨some { s with status := closing r }, some r⟩
        [.status (closing r), .finished r]

lemma start_takes (t : Tracker) (name : String) (size now : Nat) :
    Takes t (.start name size now) (t.start name size now).1 (t.start name size now).2 := by
  cases hs : t.session with
  | none =>
    simp only [Tracker.start, hs]
    exact .started name size now hs
  | some s =>
    simp only [Tracker.start, hs]
    exact .unheard (by simp [Tracker.Hears, hs])

lemma progress_takes (t : Tracker) (loaded total now : Nat) :
    Takes t (.progress loaded total now) (t.progress loaded total now).1
      (t.progress loaded total now).2 := by
  by_cases hu : t.status = .uploading
  · obtain ⟨s, hs⟩ := exists_session (t := t) (by simp [hu])
    rw [status_of_session hs] at hu
    rw [progress_reported hs hu]
    exact .reported loaded total now hs hu
  · have ht : t.progress loaded total now = (t, []) := by
      cases hs : t.session with
      | none => simp [Tracker.progress, hs]
      | some s =>
        rw [status_of_session hs] at hu
        simp [Tracker.progress, hs, hu]
    rw [ht]
    exact .unheard hu

lemma ending_takes (t : Tracker) (ho : o.ending? = some ending) :
    Takes t o (t.step o).1 (t.step o).2 := by
  cases ha : t.status.isActive with
  | true =>
    obtain ⟨r, hd, hr⟩ := step_active ha ho
    obtain ⟨s, hs⟩ := exists_session (active_ne_idle ha)
    rw [status_of_session hs] at ha
    rw [hr, finish_session hs]
    exact .ended hs ha ho hd
  | false =>
    rw [step_inactive ha ho]
    apply Takes.unheard
    rw [hears_ending ho, ha]
    exact Bool.false_ne_true

theorem step_takes (t : Tracker) (o : Tracker.Operation) :
    Takes t o (t.step o).1 (t.step o).2 := by
  cases o with
  | start name size now => exact start_takes t name size now
  | progress loaded total now => exact progress_takes t loaded total now
  | answer | fail | cancel => exact ending_takes t rfl

namespace Takes

lemma silent_iff (h : Takes t o u es) : es = [] ↔ ¬ t.Hears o := by
  cases h with
  | unheard ho => exact iff_of_true rfl ho
  | started name size now hs => exact iff_of_false (by simp) (not_not.mpr hs)
  | @reported s loaded total now hs hu =>
    rw [← status_of_session hs] at hu
    exact iff_of_false (report_ne_nil s loaded total now) (not_not.mpr hu)
  | ended hs ha ho =>
    rw [← status_of_session hs] at ha
    exact iff_of_false (by simp) (not_not.mpr ((hears_ending ho).mpr ha))

lemma unchanged (h : Takes t o u es) (he : es = []) : u = t := by
  cases h with
  | unheard ho => rfl
  | started | ended => cases he
  | reported => exact absurd he (report_ne_nil _ _ _ _)

lemma of_deaf (h : Takes t o u es) (ho : ¬ t.Hears o) : u = t ∧ es = [] := by
  have he := h.silent_iff.mpr ho
  exact ⟨h.unchanged he, he⟩

lemma inactive (h : Takes t o u es) (ho : o.ending? = some ending) : u.status.isActive = false := by
  cases h with
  | unheard hn => exact Bool.eq_false_of_not_eq_true (mt (hears_ending ho).mpr hn)
  | started | reported => cases ho
  | ended => exact (terminal_inactive (closing_isTerminal _)).1

lemma isActive {loaded total now : Nat} (h : Takes t (.progress loaded total now) u es) :
    u.status.isActive = t.status.isActive := by
  cases h with
  | unheard => rfl
  | reported _ _ _ hs hu =>
    rw [status_of_session hs, hu]
    exact reported_isActive hu loaded total now
  | ended _ _ ho => cases ho

end Takes

lemma terminal_deaf (hs : t.session = some s) (ht : s.status.isTerminal = true)
    (o : Tracker.Operation) : ¬ t.Hears o := by
  obtain ⟨ha, hu⟩ := terminal_inactive ht
  rw [← status_of_session hs] at ha hu
  cases o with
  | start => simp [Tracker.Hears, hs]
  | progress => exact hu
  | answer | fail | cancel => simp [Tracker.Hears, ha]

lemma run_append (t : Tracker) (os ps : List Tracker.Operation) :
    t.run (os ++ ps) = (((t.run os).1.run ps).1, (t.run os).2 ++ ((t.run os).1.run ps).2) := by
  induction os generalizing t with
  | nil => simp [Tracker.run]
  | cons o os ih => simp [Tracker.run, ih]

lemma run_singleton (t : Tracker) (o : Tracker.Operation) : t.run [o] = t.step o := by
  simp [Tracker.run]

lemma run_snoc (t : Tracker) (os : List Tracker.Operation) (o : Tracker.Operation) :
    t.run (os ++ [o]) = (((t.run os).1.step o).1, (t.run os).2 ++ ((t.run os).1.step o).2) := by
  rw [run_append, run_singleton]

/-- A session goes on under its name and from its start, and takes back no bytes. -/
structure Session.Continues (s s' : Session) : Prop where
  name : s'.name = s.name
  startedAt : s'.startedAt = s.startedAt
  sent : s.sent ≤ s'.sent

lemma Session.Continues.refl (s : Session) : s.Continues s :=
  ⟨rfl, rfl, le_rfl⟩

lemma Session.Continues.trans {s s' s'' : Session} (h : s.Continues s') (h' : s'.Continues s'') :
    s.Continues s'' :=
  ⟨h'.name.trans h.name, h'.startedAt.trans h.startedAt, h.sent.trans h'.sent⟩

lemma Takes.continues (h : Takes t o u es) (hs : t.session = some s) :
    ∃ s', u.session = some s' ∧ s.Continues s' := by
  cases h with
  | unheard => exact ⟨s, hs, .refl s⟩
  | started name size now hn =>
    rw [hs] at hn
    cases hn
  | reported loaded total now hs' hu =>
    obtain rfl := Option.some.inj (hs.symm.trans hs')
    exact ⟨_, rfl, rfl, rfl, le_max_left _ _⟩
  | ended hs' =>
    obtain rfl := Option.some.inj (hs.symm.trans hs')
    exact ⟨_, rfl, rfl, rfl, le_rfl⟩

lemma run_continues (hs : t.session = some s) (os : List Tracker.Operation) :
    ∃ s', (t.run os).1.session = some s' ∧ s.Continues s' := by
  induction os generalizing t s with
  | nil => exact ⟨s, hs, .refl s⟩
  | cons o os ih =>
    obtain ⟨s', hs', h⟩ := (step_takes t o).continues hs
    obtain ⟨s'', hs'', h'⟩ := ih hs'
    exact ⟨s'', hs'', h.trans h'⟩

end FirmwareUpdate.Upload
