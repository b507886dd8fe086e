import FirmwareUpdate.Proofs.Reconnect.Outcome
import Mathlib.Algebra.Order.Floor.Div

/-! The loop of a poll, turn by turn, with the probes that are under way. A turn waits for whatever
comes first: a probe that is over, or else the next attempt. Whatever the probes come to, those that
are over at an instant are out of the way before the attempt that is due then, so that no more are
under way than start within one timeout. -/

namespace FirmwareUpdate.Reconnect

variable {p : Policy} {probes : Nat → Probe} {x : Activity Entry (Except Failure Nat)}

def Healthy (p : Policy) (probes : Nat → Probe) (k : Nat) : Prop :=
  (probes (k - 1)).isHealthy p.timeout = true

structure Moment where
  now : Nat
  started : Nat
  flight : Finset Nat

namespace Moment

def start : Moment := ⟨0, 0, ∅⟩

def tick (p : Policy) (s : Moment) : Nat := (s.started + 1) * p.interval

structure Lands (p : Policy) (probes : Nat → Probe) (s : Moment) (k : Nat) : Prop where
  under_way : k ∈ s.flight
  soonest : ∀ j ∈ s.flight, concluded p probes k ≤ concluded p probes j
  in_time : s.started < p.maxAttempts → concluded p probes k ≤ s.tick p

end Moment

inductive Turn (p : Policy) (probes : Nat → Probe) (s : Moment) :
    Nat → List Entry → Moment → Prop
  | landed {k : Nat} : s.Lands p probes k → ¬ Healthy p probes k →
      Turn p probes s (concluded p probes k - s.now) []
        ⟨concluded p probes k, s.started, s.flight.erase k⟩
  | launched : s.started < p.maxAttempts → (∀ k ∈ s.flight, s.tick p < concluded p probes k) →
      Turn p probes s (s.tick p - s.now) (attempted p (s.started + 1))
        ⟨s.tick p, s.started + 1, insert (s.started + 1) s.flight⟩

inductive Reached (p : Policy) (probes : Nat → Probe) : Moment → Prop
  | start : Reached p probes .start
  | turn {s s' : Moment} {span : Nat} {es : List Entry} :
      Reached p probes s → Turn p probes s span es s' → Reached p probes s'

def waiting (started span : Nat) (x : Activity Entry (Except Failure Nat)) :
    Activity Entry (Except Failure Nat) := do
  if ← .await span then x
  else return .error (.cancelled started)

def leaving (es : List Entry) (x : Activity Entry (Except Failure Nat)) :
    Activity Entry (Except Failure Nat) := do
  .writeAll es
  x

inductive Loops (p : Policy) (probes : Nat → Probe) :
    Moment → Activity Entry (Except Failure Nat) → Prop
  | exhausted {s : Moment} : s.started = p.maxAttempts → s.flight = ∅ →
      Loops p probes s (pure (.error (.timedOut p.maxAttempts)))
  | answered {s : Moment} {k : Nat} : s.Lands p probes k → Healthy p probes k →
      Loops p probes s (waiting s.started (concluded p probes k - s.now) (pure (.ok k)))
  | turn {s s' : Moment} {span : Nat} {es : List Entry}
      {x : Activity Entry (Except Failure Nat)} : Turn p probes s span es s' →
      Loops p probes s' x → Loops p probes s (waiting s.started span (leaving es x))

variable {s s' : Moment} {span : Nat} {es : List Entry}

structure Sound (p : Policy) (probes : Nat → Probe) (s : Moment) : Prop where
  started : s.started ≤ p.maxAttempts
  begun : s.started * p.interval ≤ s.now
  not_late : s.started < p.maxAttempts → s.now ≤ s.tick p
  numbered : ∀ k ∈ s.flight, 1 ≤ k ∧ k ≤ s.started
  pending : ∀ k ∈ s.flight, s.now ≤ concluded p probes k
  overlaps : ∀ k ∈ s.flight, k ≠ s.started → s.started * p.interval < concluded p probes k
  gone : ∀ k, 1 ≤ k → k ≤ s.started → k ∉ s.flight →
    ¬ Healthy p probes k ∧ concluded p probes k ≤ s.now

lemma start_sound (p : Policy) (probes : Nat → Probe) : Sound p probes .start where
  started := Nat.zero_le _
  begun := by simp [Moment.start]
  not_late _ := Nat.zero_le _
  numbered k hk := absurd hk (Finset.notMem_empty k)
  pending k hk := absurd hk (Finset.notMem_empty k)
  overlaps k hk := absurd hk (Finset.notMem_empty k)
  gone k h1 h0 := by
    change k ≤ 0 at h0
    omega

lemma Sound.landed {k : Nat} (h : Sound p probes s) (hk : s.Lands p probes k)
    (hf : ¬ Healthy p probes k) :
    Sound p probes ⟨concluded p probes k, s.started, s.flight.erase k⟩ where
  started := h.started
  begun := h.begun.trans (h.pending k hk.under_way)
  not_late := hk.in_time
  numbered j hj := h.numbered j (Finset.mem_of_mem_erase hj)
  pending j hj := hk.soonest j (Finset.mem_of_mem_erase hj)
  overlaps j hj := h.overlaps j (Finset.mem_of_mem_erase hj)
  gone j h1 hs hj := by
    by_cases he : j = k
    · subst he
      exact ⟨hf, le_rfl⟩
    · have hn : j ∉ s.flight := fun hm => hj (Finset.mem_erase_of_ne_of_mem he hm)
      obtain ⟨hu, hc⟩ := h.gone j h1 hs hn
      exact ⟨hu, hc.trans (h.pending k hk.under_way)⟩

lemma Sound.launched (h : Sound p probes s) (hs : s.started < p.maxAttempts)
    (hlate : ∀ k ∈ s.flight, s.tick p < concluded p probes k) :
    Sound p probes ⟨s.tick p, s.started + 1, insert (s.started + 1) s.flight⟩ where
  started := hs
  begun := le_rfl
  not_late _ := Nat.mul_le_mul_right _ (Nat.le_succ _)
  numbered k hk := by
    rcases Finset.mem_insert.mp hk with rfl | hk
    · exact ⟨Nat.succ_pos _, le_rfl⟩
    · obtain ⟨h1, hle⟩ := h.numbered k hk
      exact ⟨h1, Nat.le_succ_of_le hle⟩
  pending k hk := by
    rcases Finset.mem_insert.mp hk with rfl | hk
    · exact Nat.le_add_right _ _
    · exact (hlate k hk).le
  overlaps k hk hne := hlate k (Finset.mem_of_mem_insert_of_ne hk hne)
  gone k h1 hle hk := by
    obtain ⟨hne, hn⟩ := not_or.mp (mt Finset.mem_insert.mpr hk)
    obtain ⟨hu, hc⟩ := h.gone k h1 (by change k ≤ s.started + 1 at hle; omega) hn
    exact ⟨hu, hc.trans (h.not_late hs)⟩

lemma Sound.turn (h : Sound p probes s) (ht : Turn p probes s span es s') :
    Sound p probes s' := by
  cases ht with
  | landed hk hf => exact h.landed hk hf
  | launched hs hlate => exact h.launched hs hlate

lemma Reached.sound (h : Reached p probes s) : Sound p probes s := by
  induction h with
  | start => exact start_sound p probes
  | turn _ ht ih => exact ih.turn ht

lemma Sound.flight_card (h : Sound p probes s) (hi : 0 < p.interval) :
    s.flight.card ≤ max 1 (p.timeout ⌈/⌉ p.interval) := by
  set room := max 1 (p.timeout ⌈/⌉ p.interval) with hroom
  have hsub : s.flight ⊆ Finset.Ioc (s.started - room) s.started := by
    intro k hk
    obtain ⟨h1, hle⟩ := h.numbered k hk
    rw [Finset.mem_Ioc]
    refine ⟨?_, hle⟩
    by_cases he : k = s.started
    · have : 1 ≤ room := le_max_left _ _
      omega
    · have hover := h.overlaps k hk he
      have hspan : concluded p probes k ≤ k * p.interval + p.timeout :=
        Nat.add_le_add_left (span_le _ _) _
      have hlt : s.started - k < p.timeout ⌈/⌉ p.interval := by
        by_contra hn
        have hm := (ceilDiv_le_iff_le_mul hi).mp (Nat.not_lt.mp hn)
        have hd : p.interval * (s.started - k) + k * p.interval = s.started * p.interval := by
          rw [Nat.mul_comm p.interval, ← Nat.add_mul, Nat.sub_add_cancel hle]
        omega
      have : p.timeout ⌈/⌉ p.interval ≤ room := le_max_right _ _
      omega
  calc s.flight.card
      ≤ (Finset.Ioc (s.started - room) s.started).card := Finset.card_le_card hsub
    _ = s.started - (s.started - room) := Nat.card_Ioc _ _
    _ ≤ room := by omega

lemma waiting_cancelled {started t : Nat} {c : Cancellation} (h : c.within span = some t) :
    waiting started span x c = ⟨[], some (t, .error (.cancelled started))⟩ := by
  rw [waiting, Activity.await_bind_cancelled _ h]
  simp [Run.later]

lemma waiting_over {started : Nat} {c : Cancellation} (h : c.within span = none) :
    waiting started span x c = (x (c.after span 0)).later span := by
  rw [waiting, Activity.await_bind_over _ h]
  rfl

lemma waiting_waiting (started span more : Nat) (x : Activity Entry (Except Failure Nat)) :
    waiting started span (waiting started more x) = waiting started (span + more) x := by
  funext c
  have hadd := c.within_add span more
  cases hw : c.within span with
  | some t =>
    rw [hw, Option.some_or] at hadd
    rw [waiting_cancelled hw, waiting_cancelled hadd]
  | none =>
    rw [hw, Option.none_or] at hadd
    rw [waiting_over hw]
    cases hm : (c.after span 0).within more with
    | some t =>
      rw [hm] at hadd
      rw [waiting_cancelled hm, waiting_cancelled hadd]
      rfl
    | none =>
      rw [hm] at hadd
      rw [waiting_over hm, waiting_over hadd, Cancellation.after_after, Run.later_later]

lemma leaving_nil (x : Activity Entry (Except Failure Nat)) : leaving [] x = x :=
  pure_bind () fun _ => x

lemma leaving_attempted (p : Policy) (k : Nat) (x : Activity Entry (Except Failure Nat)) :
    leaving (attempted p k) x = (do
      .write (.attempt ⟨k, p.maxAttempts, p.interval, p.timeout⟩)
      .write .probe
      x) := by
  simp [leaving, attempted, Activity.writeAll]

/-- What the end of a poll says of the `n` attempts that it has made by then. -/
def Justified (p : Policy) (probes : Nat → Probe) (n t : Nat) : Except Failure Nat → Prop
  | .ok k => k ≤ n ∧ Arrives p probes k t
  | .error (.timedOut m) => m = p.maxAttempts ∧ n = p.maxAttempts ∧
      ∀ k, 1 ≤ k → k ≤ n → ¬ Healthy p probes k ∧ concluded p probes k ≤ t
  | .error (.cancelled m) => m = n

/-- What an activity does from a moment on: it makes some more attempts, each at its instant, and
ends. -/
def Continues (p : Policy) (probes : Nat → Probe) (s : Moment) (r : Run Entry (Except Failure Nat)) :
    Prop :=
  ∃ more, s.started + more ≤ p.maxAttempts ∧ ∃ t a, r.later s.now =
      ⟨(List.range' (s.started + 1) more).flatMap (traces p), some (t, a)⟩ ∧
    Justified p probes (s.started + more) t a

lemma Sound.cancelled (h : Sound p probes s) (t : Nat) :
    Continues p probes s ⟨[], some (t, .error (.cancelled s.started))⟩ :=
  ⟨0, h.started, s.now + t, _, rfl, rfl⟩

lemma Sound.exhausted (h : Sound p probes s) (hs : s.started = p.maxAttempts)
    (hf : s.flight = ∅) : Continues p probes s ⟨[], some (0, .error (.timedOut p.maxAttempts))⟩ := by
  refine ⟨0, h.started, s.now, _, rfl, rfl, hs, ?_⟩
  intro k h1 hk
  exact h.gone k h1 hk (by simp [hf])

lemma Sound.answered {k : Nat} (h : Sound p probes s) (hk : k ∈ s.flight)
    (hh : Healthy p probes k) :
    Continues p probes s ⟨[], some (concluded p probes k - s.now, .ok k)⟩ := by
  obtain ⟨h1, hle⟩ := h.numbered k hk
  refine ⟨0, h.started, concluded p probes k, .ok k, ?_, hle, ?_⟩
  · simp [Run.later, Nat.add_sub_cancel' (h.pending k hk)]
  · exact arrives_iff.mpr ⟨h1, hle.trans h.started, hh, rfl⟩

lemma Sound.goes_on (h : Sound p probes s) (ht : Turn p probes s span es s')
    {r : Run Entry (Except Failure Nat)} (hr : Continues p probes s' r) :
    Continues p probes s ((r.after (es.map (⟨0, ·⟩))).later span) := by
  obtain ⟨more, hmore, t, a, hlog, ha⟩ := hr
  cases ht with
  | @landed k hk =>
    refine ⟨more, hmore, t, a, ?_, ha⟩
    rw [List.map_nil, Run.after_nil, Run.later_later, Nat.add_sub_cancel' (h.pending k hk.under_way)]
    exact hlog
  | launched hs =>
    have he : s.started + 1 + more = s.started + (more + 1) := by omega
    rw [he] at hmore ha
    refine ⟨more + 1, hmore, t, a, ?_, ha⟩
    rw [Run.later_later, Nat.add_sub_cancel' (h.not_late hs), Run.after_later, hlog,
      List.range'_succ, List.flatMap_cons]
    rfl

lemma Loops.continues (hx : Loops p probes s x) (h : Sound p probes s) (c : Cancellation) :
    Continues p probes s (x c) := by
  induction hx generalizing c with
  | exhausted hs hf => exact h.exhausted hs hf
  | @answered s k hk hh =>
    cases hw : c.within (concluded p probes k - s.now) with
    | some t =>
      rw [waiting_cancelled hw]
      exact h.cancelled t
    | none =>
      rw [waiting_over hw]
      exact h.answered hk.under_way hh
  | @turn s s' span es x ht _ ih =>
    cases hw : c.within span with
    | some t =>
      rw [waiting_cancelled hw]
      exact h.cancelled t
    | none =>
      rw [waiting_over hw, leaving, Activity.writeAll_bind]
      exact h.goes_on ht (ih (h.turn ht) _)

end FirmwareUpdate.Reconnect
