import FirmwareUpdate.Proofs.Reconnect.Outcome
import FirmwareUpdate.Proofs.Truncation

/-! The course of a poll, whatever its probes come to. Left alone, it makes its first few attempts at
their instants and ends with an answer or when it gives up; a cancellation before that cuts it short,
and then it tells how many attempts it has made. -/

namespace FirmwareUpdate.Reconnect

def Entry.isAttempt : Entry → Bool
  | .attempt _ => true
  | .probe => false

variable {p : Policy} {probes : Nat → Probe}

inductive Settled (attempts : Nat) : Except Failure Nat → Prop
  | answered (k : Nat) : Settled attempts (.ok k)
  | timedOut : Settled attempts (.error (.timedOut attempts))

lemma Polls.course {left started : Nat} {f : Flight} {x : Activity Entry (Except Failure Nat)}
    (h : Polls p probes left started f x) :
    ∃ n ≤ left, ∃ t r, (x .never).later (started * p.interval) =
        ⟨(List.range' (started + 1) n).flatMap (traces p), some (t, r)⟩ ∧
      Settled (started + left) r := by
  induction h with
  | answered =>
    exact ⟨0, Nat.zero_le _, _, _, congrArg (Run.later _) (arrive_never ..), .answered _⟩
  | @attempts left started f x _ _ ih =>
    obtain ⟨n, hn, t, r, hr, hs⟩ := ih
    refine ⟨n + 1, Nat.succ_le_succ hn, t, r, ?_, ?_⟩
    · rw [attempting_later, hr, List.range'_succ, List.flatMap_cons]
      rfl
    · rwa [Nat.add_assoc, Nat.add_comm 1 left] at hs
  | unattempted => exact ⟨0, Nat.le_refl 0, _, _, rfl, .timedOut⟩
  | exhausted =>
    exact ⟨0, Nat.le_refl 0, _, _, congrArg (Run.later _) (givingUp_never ..), .timedOut⟩

lemma poll_course (p : Policy) (probes : Nat → Probe) :
    ∃ n ≤ p.maxAttempts, ∃ t r, poll p probes .never =
        ⟨(List.range' 1 n).flatMap (traces p), some (t, r)⟩ ∧ Settled p.maxAttempts r := by
  obtain ⟨n, hn, t, r, hr, hs⟩ := (poll_polls p probes).course
  rw [Nat.zero_mul, Run.later_zero] at hr
  rw [Nat.zero_add] at hs
  exact ⟨n, hn, t, r, hr, hs⟩

def givenUp (started : Nat) (log : List Entry) : List Entry × Except Failure Nat :=
  ([], .error (.cancelled (started + log.countP Entry.isAttempt)))

lemma attempting_stops {started : Nat} {x : Activity Entry (Except Failure Nat)}
    (hx : Activity.Stops x (givenUp (started + 1))) :
    Activity.Stops (attempting p started x) (givenUp started) := by
  refine .await_bind ?_ (.pure _)
  refine .prompt_bind (.write _) (.prompt_bind (.write _) ?_)
  have hg : (fun log => givenUp started (attempted p (started + 1) ++ log)) =
      givenUp (started + 1) := by
    funext log
    simp [givenUp, attempted, List.countP_cons, Entry.isAttempt, Nat.add_assoc, Nat.add_comm 1]
  exact hg ▸ hx

lemma Polls.stops {left started : Nat} {f : Flight} {x : Activity Entry (Except Failure Nat)}
    (h : Polls p probes left started f x) : Activity.Stops x (givenUp started) := by
  induction h with
  | answered => exact .await_bind (.prompt (.pure _)) (.pure _)
  | attempts _ _ ih => exact attempting_stops ih
  | unattempted => exact .prompt (.pure _)
  | exhausted => exact .await_bind (.prompt (.pure _)) (.pure _)

theorem poll_stops (p : Policy) (probes : Nat → Probe) :
    Activity.Stops (poll p probes) (givenUp 0) :=
  (poll_polls p probes).stops

end FirmwareUpdate.Reconnect
