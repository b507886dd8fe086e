import FirmwareUpdate.Proofs.Upload.Grammar

/-! A tracker's session beside its outcome. After any operations the two agree: there is a session
from the start on, an outcome exactly once the status is a last one, and the status tells which.
What a tracker does not listen to leaves both as they are. -/

namespace FirmwareUpdate.Upload

structure Coherent (t : Tracker) : Prop where
  absent : t.session = none ↔ t.status = .idle
  ended : t.outcome ≠ none ↔ t.status.isTerminal = true
  succeeded : t.status = .succeeded ↔ t.outcome = some (.ok ())
  cancelled : t.status = .cancelled ↔ t.outcome = some (.error .cancelled)
  failed : t.status = .failed ↔ ∃ f, f ≠ .cancelled ∧ t.outcome = some (.error f)

inductive Phase : Tracker → Prop
  | idle : Phase .new
  | active {s : Session} : s.status.isActive = true → Phase ⟨some s, none⟩
  | closed {s : Session} {r : Result} : s.status = closing r → Phase ⟨some s, some r⟩

variable {t u : Tracker} {o : Tracker.Operation} {es : List Event} {s : Session}

lemma Phase.takes (h : Phase t) (ht : Takes t o u es) : Phase u := by
  cases ht with
  | unheard => exact h
  | started name size now hn =>
    cases h with
    | idle => exact .active rfl
    | active | closed => cases hn
  | reported loaded total now hs hu =>
    cases h with
    | idle => cases hs
    | active => exact .active (reported_isActive hu loaded total now)
    | @closed s r hr =>
      obtain rfl := Option.some.inj hs
      have hc := closing_isTerminal r
      rw [← hr, hu] at hc
      cases hc
  | ended => exact .closed rfl

lemma Phase.run (h : Phase t) (os : List Tracker.Operation) : Phase (t.run os).1 := by
  induction os generalizing t with
  | nil => exact h
  | cons o os ih => exact ih (h.takes (step_takes t o))

lemma active_coherent (ha : s.status.isActive = true) : Coherent ⟨some s, none⟩ := by
  have hx : s.status = .uploading ∨ s.status = .validating := by
    cases hs : s.status with
    | uploading => exact .inl rfl
    | validating => exact .inr rfl
    | idle | succeeded | failed | cancelled =>
      rw [hs] at ha
      cases ha
  rcases hx with hx | hx
  · constructor <;> simp [Tracker.status, hx, Status.isTerminal]
  · constructor <;> simp [Tracker.status, hx, Status.isTerminal]

lemma closed_coherent {r : Result} (hr : s.status = closing r) : Coherent ⟨some s, some r⟩ := by
  obtain ⟨hsucceeded, hcancelled, hfailed⟩ := closes_closing r
  have ht := closing_isTerminal r
  rw [← hr] at hsucceeded hcancelled hfailed ht
  have hi : s.status ≠ .idle := by
    intro hi
    rw [hi] at ht
    cases ht
  constructor
  · simp [Tracker.status, hi]
  · simp [Tracker.status, ht]
  · simpa [Tracker.status] using hsucceeded
  · simpa [Tracker.status] using hcancelled
  · simpa [Tracker.status] using hfailed

lemma Phase.coherent (h : Phase t) : Coherent t := by
  cases h with
  | idle => constructor <;> simp [Tracker.new, Tracker.status, Status.isTerminal]
  | active ha => exact active_coherent ha
  | closed hr => exact closed_coherent hr

lemma idle_hears (hi : t.status = .idle) (ho : t.Hears o) :
    ∃ name size now, o = .start name size now := by
  cases o with
  | start name size now => exact ⟨name, size, now, rfl⟩
  | progress loaded total now =>
    rw [Tracker.Hears, hi] at ho
    cases ho
  | answer | fail | cancel =>
    rw [Tracker.Hears, hi] at ho
    cases ho

/-- A tracker after any operations, and what one more of them, or more of them, do to it. -/
theorem run_coherent (os : List Tracker.Operation) :
    Coherent (Tracker.new.run os).1 ∧
    (∀ o, ((Tracker.new.run os).1.step o).2 = [] ↔ ¬ (Tracker.new.run os).1.Hears o) ∧
    (∀ o, ((Tracker.new.run os).1.step o).2 = [] →
      ((Tracker.new.run os).1.step o).1 = (Tracker.new.run os).1) ∧
    ((Tracker.new.run os).1.status.isTerminal = true →
      ∀ o, ((Tracker.new.run os).1.step o).2 = []) ∧
    ((Tracker.new.run os).1.status = .idle →
      ∀ o, (∀ name size now, o ≠ .start name size now) →
        ((Tracker.new.run os).1.step o).2 = []) ∧
    ∀ s more, (Tracker.new.run os).1.session = some s →
      ∃ s', (Tracker.new.run (os ++ more)).1.session = some s' ∧
        s'.name = s.name ∧ s'.startedAt = s.startedAt := by
  have hp : Phase (Tracker.new.run os).1 := Phase.idle.run os
  have hsilent : ∀ o, ((Tracker.new.run os).1.step o).2 = [] ↔ ¬ (Tracker.new.run os).1.Hears o :=
    fun o => (step_takes _ o).silent_iff
  refine ⟨hp.coherent, hsilent, ?_, ?_, ?_, ?_⟩
  · intro o he
    exact (step_takes _ o).unchanged he
  · intro ht o
    obtain ⟨s, hs⟩ := exists_session (terminal_ne_idle ht)
    rw [status_of_session hs] at ht
    exact (hsilent o).mpr (terminal_deaf hs ht o)
  · intro hi o ho
    apply (hsilent o).mpr
    intro hh
    obtain ⟨name, size, now, rfl⟩ := idle_hears hi hh
    exact ho name size now rfl
  · intro s more hs
    obtain ⟨s', hs', h⟩ := run_continues hs more
    rw [run_append]
    exact ⟨s', hs', h.name, h.startedAt⟩

def brokenUpload : List Tracker.Operation :=
  [.start "fw.bin" 4 0, .progress 2 4 600000000, .fail "reset"]

theorem run_coherent_brokenUpload :
    (Tracker.new.run brokenUpload).1.status = .failed ∧
    (Tracker.new.run brokenUpload).1.outcome = some (.error (.network "reset")) ∧
    (∀ o, (Tracker.new.run brokenUpload).1.step o = ((Tracker.new.run brokenUpload).1, [])) ∧
    ∃ s, (Tracker.new.run (brokenUpload ++ [.start "other.bin" 9 7])).1.session = some s ∧
      s.name = "fw.bin" ∧ s.startedAt = 0 := by
  obtain ⟨_, _, hunchanged, hterminal, _, hframe⟩ := run_coherent brokenUpload
  refine ⟨rfl, rfl, ?_, ?_⟩
  · intro o
    have he := hterminal rfl o
    exact Prod.ext (hunchanged o he) he
  · exact hframe _ [.start "other.bin" 9 7] rfl

end FirmwareUpdate.Upload
