import FirmwareUpdate.Proofs.Activity
import FirmwareUpdate.Reconnect

/-! The turns of a poll. It waits for the answer that is sure to come first, or goes on to its next
attempt; with no attempts left and no answer on its way, it waits until all probes are over. Whenever
it is cancelled, it leaves in its log its first few attempts in order, each announced right before its
probe, and no more of them than are allowed. -/

namespace FirmwareUpdate.Reconnect

variable {p : Policy} {probes : Nat → Probe} {started left : Nat} {f : Flight}
  {x : Activity Entry (Except Failure Nat)}

def attempted (p : Policy) (k : Nat) : List Entry :=
  [.attempt ⟨k, p.maxAttempts, p.interval, p.timeout⟩, .probe]

def attempting (p : Policy) (started : Nat) (x : Activity Entry (Except Failure Nat)) :
    Activity Entry (Except Failure Nat) := do
  if ← .await p.interval then
    .write (.attempt ⟨started + 1, p.maxAttempts, p.interval, p.timeout⟩)
    .write .probe
    x
  else return .error (.cancelled started)

def givingUp (started span : Nat) : Activity Entry (Except Failure Nat) := do
  if ← .await span then return .error (.timedOut started)
  else return .error (.cancelled started)

inductive Polls (p : Policy) (probes : Nat → Probe) :
    Nat → Nat → Flight → Activity Entry (Except Failure Nat) → Prop
  | answered {left started : Nat} {f : Flight} {a : Arrival} : f.first = some a →
      (left = 0 ∨ a.instant ≤ (started + 1) * p.interval) →
      Polls p probes left started f (arrive started (started * p.interval) a)
  | attempts {left started : Nat} {f : Flight} {x : Activity Entry (Except Failure Nat)} :
      (∀ a, f.first = some a → (started + 1) * p.interval < a.instant) →
      Polls p probes left (started + 1)
        (f.launch (started + 1) ((started + 1) * p.interval) (probes started) p.timeout) x →
      Polls p probes (left + 1) started f (attempting p started x)
  | unattempted {f : Flight} : f.first = none →
      Polls p probes 0 0 f (pure (.error (.timedOut 0)))
  | exhausted {started : Nat} {f : Flight} : f.first = none → started ≠ 0 →
      Polls p probes 0 started f (givingUp started (f.ended - started * p.interval))

lemma pollFrom_polls (p : Policy) (probes : Nat → Probe) (left started : Nat) (f : Flight) :
    Polls p probes left started f (pollFrom p probes left started f) := by
  induction left generalizing started f with
  | zero =>
    cases hf : f.first with
    | some a =>
      simp only [pollFrom, hf]
      exact .answered hf (.inl rfl)
    | none =>
      by_cases h0 : started = 0
      · subst h0
        simp only [pollFrom, hf]
        exact .unattempted hf
      · simp only [pollFrom, hf, if_neg h0]
        exact .exhausted hf h0
  | succ left ih =>
    have hx := ih (started + 1)
      (f.launch (started + 1) ((started + 1) * p.interval) (probes started) p.timeout)
    cases hf : f.first with
    | none =>
      simp only [pollFrom, hf]
      refine .attempts ?_ hx
      intro a ha
      rw [hf] at ha
      cases ha
    | some a =>
      by_cases ha : a.instant ≤ (started + 1) * p.interval
      · simp only [pollFrom, hf, if_pos ha]
        exact .answered hf (.inr ha)
      · simp only [pollFrom, hf, if_neg ha]
        refine .attempts ?_ hx
        intro b hb
        obtain rfl := Option.some.inj (hf.symm.trans hb)
        exact Nat.lt_of_not_le ha

lemma poll_polls (p : Policy) (probes : Nat → Probe) :
    Polls p probes p.maxAttempts 0 .none (poll p probes) :=
  pollFrom_polls p probes p.maxAttempts 0 .none

lemma poll_unattempted (h : p.maxAttempts = 0) (probes : Nat → Probe) (c : Cancellation) :
    poll p probes c = ⟨[], some (0, .error (.timedOut 0))⟩ := by
  simp [poll, h, pollFrom, Flight.none]

lemma arrive_never (started now : Nat) (a : Arrival) :
    arrive started now a .never = ⟨[], some (a.instant - now, .ok a.number)⟩ := by
  rw [arrive, Activity.await_bind_never]
  simp [Run.later]

lemma givingUp_never (started span : Nat) :
    givingUp started span .never = ⟨[], some (span, .error (.timedOut started))⟩ := by
  rw [givingUp, Activity.await_bind_never]
  simp [Run.later]

lemma attempting_over {c : Cancellation} (h : c.within p.interval = none) :
    attempting p started x c =
      ((x (c.after p.interval 2)).after ((attempted p (started + 1)).map (⟨0, ·⟩))).later
        p.interval := by
  rw [attempting, Activity.await_bind_over _ h]
  simp [Activity.write_bind, attempted]

lemma attempting_never :
    attempting p started x .never =
      ((x .never).after ((attempted p (started + 1)).map (⟨0, ·⟩))).later p.interval :=
  attempting_over rfl

lemma attempting_cancelled {c : Cancellation} {t : Nat} (h : c.within p.interval = some t) :
    attempting p started x c = ⟨[], some (t, .error (.cancelled started))⟩ := by
  rw [attempting, Activity.await_bind_cancelled _ h]
  simp [Run.later]

lemma Polls.due (h : Polls p probes left started f x) (hs : left ≠ 0 ∨ started ≠ 0)
    {c : Cancellation} (hc : c.isDue = true) :
    x c = ⟨[], some (0, .error (.cancelled started))⟩ := by
  cases h with
  | answered =>
    rw [arrive, Activity.await_bind_due hc]
    rfl
  | attempts => exact attempting_cancelled (by simp [Cancellation.within, hc])
  | unattempted => simp at hs
  | exhausted =>
    rw [givingUp, Activity.await_bind_due hc]
    rfl

lemma Polls.entries (h : Polls p probes left started f x) (c : Cancellation) :
    ∃ n ≤ left, (x c).entries = (List.range' (started + 1) n).flatMap (attempted p) := by
  induction h generalizing c with
  | answered =>
    refine ⟨0, Nat.zero_le _, ?_⟩
    apply Activity.Keeps.entries_eq_nil
    exact .bind (.await _) fun _ => .ite (.pure _) (.pure _)
  | attempts _ _ ih =>
    cases hw : c.within p.interval with
    | some t =>
      refine ⟨0, Nat.zero_le _, ?_⟩
      rw [attempting_cancelled hw]
      rfl
    | none =>
      obtain ⟨n, hn, he⟩ := ih (c.after p.interval 2)
      refine ⟨n + 1, Nat.succ_le_succ hn, ?_⟩
      rw [attempting_over hw, Run.entries_later, Run.entries_after, he, List.range'_succ,
        List.flatMap_cons]
      rfl
  | unattempted => exact ⟨0, Nat.le_refl 0, rfl⟩
  | exhausted =>
    refine ⟨0, Nat.le_refl 0, ?_⟩
    apply Activity.Keeps.entries_eq_nil
    exact .bind (.await _) fun _ => .ite (.pure _) (.pure _)

lemma poll_entries (p : Policy) (probes : Nat → Probe) (c : Cancellation) :
    ∃ n ≤ p.maxAttempts,
      (poll p probes c).entries = (List.range' 1 n).flatMap (attempted p) :=
  (poll_polls p probes).entries c

end FirmwareUpdate.Reconnect
