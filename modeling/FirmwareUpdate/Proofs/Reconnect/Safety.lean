import FirmwareUpdate.Proofs.Reconnect.Course
import FirmwareUpdate.Proofs.Reconnect.Loop

/-! A poll is what the loop does from its start. So whenever it is cancelled, its attempts are
counted without a gap and each goes with one probe, it ends with an answer only if that attempt's
own probe was answered in good health, and it gives up only once all its probes have failed. -/

namespace FirmwareUpdate.Reconnect

variable {p : Policy} {probes : Nat → Probe} {s : Moment} {f : Flight}
  {x : Activity Entry (Except Failure Nat)}

lemma exists_soonest (p : Policy) (probes : Nat → Probe) (h : s.flight.Nonempty) :
    ∃ k ∈ s.flight, ∀ j ∈ s.flight, concluded p probes k ≤ concluded p probes j :=
  s.flight.exists_min_image (concluded p probes) h

lemma Sound.lands {k u : Nat} (h : Sound p probes s) (hk : s.Lands p probes k)
    (hf : ¬ Healthy p probes k) (hu : concluded p probes k ≤ u)
    (hx : Loops p probes ⟨concluded p probes k, s.started, s.flight.erase k⟩
      (waiting s.started (u - concluded p probes k) x)) :
    Loops p probes s (waiting s.started (u - s.now) x) := by
  have hturn := Loops.turn (.landed hk hf) hx
  have hspan : concluded p probes k - s.now + (u - concluded p probes k) = u - s.now := by
    have := h.pending k hk.under_way
    omega
  rwa [leaving_nil, waiting_waiting, hspan] at hturn

lemma Sound.loops_answered {a : Nat} (h : Sound p probes s) (ha : a ∈ s.flight)
    (hh : Healthy p probes a)
    (hfirst : ∀ k ∈ s.flight, Healthy p probes k → concluded p probes a ≤ concluded p probes k)
    (htick : s.started < p.maxAttempts → concluded p probes a ≤ s.tick p) :
    Loops p probes s (waiting s.started (concluded p probes a - s.now) (pure (.ok a))) := by
  induction hn : s.flight.card generalizing s with
  | zero => simp [Finset.card_eq_zero.mp hn] at ha
  | succ n ih =>
    obtain ⟨k, hk, hsoon⟩ := exists_soonest p probes ⟨a, ha⟩
    rcases (hsoon a ha).lt_or_eq with hlt | heq
    · have hf : ¬ Healthy p probes k := fun hf => (hfirst k hk hf).not_gt hlt
      have hlands : s.Lands p probes k := ⟨hk, hsoon, fun hs => hlt.le.trans (htick hs)⟩
      have hne : a ≠ k := by
        rintro rfl
        exact hf hh
      apply h.lands hlands hf hlt.le
      apply ih (h.landed hlands hf) (Finset.mem_erase_of_ne_of_mem hne ha) _ htick
      · rw [Finset.card_erase_of_mem hk, hn, Nat.add_sub_cancel]
      · intro j hj
        exact hfirst j (Finset.mem_of_mem_erase hj)
    · exact .answered ⟨ha, fun j hj => heq ▸ hsoon j hj, htick⟩ hh

def Moment.remaining (p : Policy) (probes : Nat → Probe) (s : Moment) : Finset Nat :=
  s.flight.filter fun k => s.tick p < concluded p probes k

def Moment.next (p : Policy) (probes : Nat → Probe) (s : Moment) : Moment :=
  ⟨s.tick p, s.started + 1, insert (s.started + 1) (s.remaining p probes)⟩

lemma Sound.loops_launched (h : Sound p probes s) (hs : s.started < p.maxAttempts)
    (hlate : ∀ k ∈ s.flight, Healthy p probes k → s.tick p < concluded p probes k)
    (hx : Loops p probes (s.next p probes) x) :
    Loops p probes s
      (waiting s.started (s.tick p - s.now) (leaving (attempted p (s.started + 1)) x)) := by
  induction hn : s.flight.card generalizing s with
  | zero =>
    have he := Finset.card_eq_zero.mp hn
    have hr : s.remaining p probes = s.flight := by simp [Moment.remaining, he]
    rw [Moment.next, hr] at hx
    exact .turn (.launched hs (by simp [he])) hx
  | succ n ih =>
    have hne : s.flight.Nonempty := by
      rw [← Finset.card_pos]
      omega
    obtain ⟨k, hk, hsoon⟩ := exists_soonest p probes hne
    by_cases hlt : s.tick p < concluded p probes k
    · have hall : ∀ j ∈ s.flight, s.tick p < concluded p probes j :=
        fun j hj => hlt.trans_le (hsoon j hj)
      have hr : s.remaining p probes = s.flight := Finset.filter_true_of_mem hall
      rw [Moment.next, hr] at hx
      exact .turn (.launched hs hall) hx
    · have hle := Nat.not_lt.mp hlt
      have hf : ¬ Healthy p probes k := fun hf => hlt (hlate k hk hf)
      have hlands : s.Lands p probes k := ⟨hk, hsoon, fun _ => hle⟩
      apply h.lands hlands hf hle
      apply ih (h.landed hlands hf) hs
      · intro j hj
        exact hlate j (Finset.mem_of_mem_erase hj)
      · have hr : (s.flight.erase k).filter (fun j => s.tick p < concluded p probes j) =
            s.remaining p probes := by
          rw [Finset.filter_erase, Finset.erase_eq_of_notMem (by simp [hlt])]
          rfl
        rw [Moment.next, ← hr] at hx
        exact hx
      · rw [Finset.card_erase_of_mem hk, hn, Nat.add_sub_cancel]

lemma Sound.loops_exhausted {u : Nat} (h : Sound p probes s) (hs : s.started = p.maxAttempts)
    (hf : ∀ k ∈ s.flight, ¬ Healthy p probes k)
    (hall : ∀ k ∈ s.flight, concluded p probes k ≤ u)
    (hlast : ∃ k ∈ s.flight, concluded p probes k = u) :
    Loops p probes s
      (waiting s.started (u - s.now) (pure (.error (.timedOut p.maxAttempts)))) := by
  induction hn : s.flight.card generalizing s with
  | zero =>
    obtain ⟨k, hk, _⟩ := hlast
    simp [Finset.card_eq_zero.mp hn] at hk
  | succ n ih =>
    have hne : s.flight.Nonempty := by
      rw [← Finset.card_pos]
      omega
    obtain ⟨k, hk, hsoon⟩ := exists_soonest p probes hne
    have hlands : s.Lands p probes k := ⟨hk, hsoon, fun hlt => absurd hs hlt.ne⟩
    by_cases he : s.flight.erase k = ∅
    · obtain ⟨j, hj, rfl⟩ := hlast
      have hjk : j = k := by
        by_contra hne
        have hm := Finset.mem_erase_of_ne_of_mem hne hj
        simp [he] at hm
      subst hjk
      have hturn := Loops.turn (.landed hlands (hf j hk)) (.exhausted hs he)
      rwa [leaving_nil] at hturn
    · apply h.lands hlands (hf k hk) (hall k hk)
      apply ih (h.landed hlands (hf k hk)) hs
      · intro j hj
        exact hf j (Finset.mem_of_mem_erase hj)
      · intro j hj
        exact hall j (Finset.mem_of_mem_erase hj)
      · -- If the first to be over is the last as well, all are over with it.
        obtain ⟨j, hj⟩ := Finset.nonempty_iff_ne_empty.mpr he
        obtain ⟨l, hl, hu⟩ := hlast
        by_cases hlk : l = k
        · subst hlk
          have hm := Finset.mem_of_mem_erase hj
          exact ⟨j, hj, le_antisymm (hall j hm) (hu ▸ hsoon j hm)⟩
        · exact ⟨l, Finset.mem_erase_of_ne_of_mem hlk hl, hu⟩
      · rw [Finset.card_erase_of_mem hk, hn, Nat.add_sub_cancel]

structure Represents (p : Policy) (probes : Nat → Probe) (f : Flight) (s : Moment) : Prop where
  first : ∀ a, f.first = some a →
    a.number ∈ s.flight ∧ Healthy p probes a.number ∧ a.instant = concluded p probes a.number
  soonest : ∀ k ∈ s.flight, Healthy p probes k →
    ∃ a, f.first = some a ∧ a.instant ≤ concluded p probes k
  ended : ∀ k ∈ s.flight, concluded p probes k ≤ f.ended
  last : f.ended ≤ s.now ∨ ∃ k ∈ s.flight, concluded p probes k = f.ended
  latest : s.started ≠ 0 → s.started ∈ s.flight

lemma start_represents (p : Policy) (probes : Nat → Probe) :
    Represents p probes .none .start where
  first a ha := by cases ha
  soonest k hk := absurd hk (Finset.notMem_empty k)
  ended k hk := absurd hk (Finset.notMem_empty k)
  last := .inl (Nat.le_refl 0)
  latest h := absurd rfl h

section

variable {number instant timeout : Nat} {q : Probe} {a b : Arrival}

lemma launch_cases (h : (f.launch number instant q timeout).first = some a) :
    q.isHealthy timeout = true ∧ a = ⟨number, instant + q.span timeout⟩ ∨ f.first = some a := by
  simp only [Flight.launch] at h
  split_ifs at h with hq
  · cases hf : f.first with
    | none =>
      rw [hf] at h
      exact .inl ⟨hq, (Option.some.inj h).symm⟩
    | some b =>
      rw [hf] at h
      have hs := Option.some.inj h
      simp only [Option.elim_some, Flight.sooner] at hs
      split_ifs at hs
      · exact .inl ⟨hq, hs.symm⟩
      · exact .inr (congrArg some hs)
  · exact .inr h

lemma launch_healthy (f : Flight) (number instant : Nat) (h : q.isHealthy timeout = true) :
    ∃ a, (f.launch number instant q timeout).first = some a ∧
      a.instant ≤ instant + q.span timeout := by
  refine ⟨_, if_pos h, ?_⟩
  cases f.first with
  | none => exact le_rfl
  | some b =>
    simp only [Option.elim_some, Flight.sooner]
    split_ifs with hlt
    · exact le_rfl
    · exact Nat.not_lt.mp hlt

lemma launch_first (number instant timeout : Nat) (q : Probe) (h : f.first = some b) :
    ∃ a, (f.launch number instant q timeout).first = some a ∧ a.instant ≤ b.instant := by
  by_cases hq : q.isHealthy timeout = true
  · refine ⟨_, if_pos hq, ?_⟩
    simp only [h, Option.elim_some, Flight.sooner]
    split_ifs with hlt
    · exact hlt.le
    · exact le_rfl
  · exact ⟨b, (if_neg hq).trans h, le_rfl⟩

end

lemma Represents.next (hr : Represents p probes f s) (h : Sound p probes s)
    (hs : s.started < p.maxAttempts)
    (hlate : ∀ a, f.first = some a → s.tick p < a.instant) :
    Represents p probes
      (f.launch (s.started + 1) (s.tick p) (probes s.started) p.timeout) (s.next p probes) where
  first a ha := by
    rcases launch_cases ha with ⟨hq, rfl⟩ | hf
    · exact ⟨Finset.mem_insert_self _ _, hq, rfl⟩
    · obtain ⟨hm, hh, hi⟩ := hr.first a hf
      have hrem : a.number ∈ s.remaining p probes :=
        Finset.mem_filter.mpr ⟨hm, hi ▸ hlate a hf⟩
      exact ⟨Finset.mem_insert_of_mem hrem, hh, hi⟩
  soonest k hk hh := by
    rcases Finset.mem_insert.mp hk with rfl | hk
    · exact launch_healthy f (s.started + 1) (s.tick p) hh
    · obtain ⟨b, hb, hle⟩ := hr.soonest k (Finset.mem_of_mem_filter k hk) hh
      obtain ⟨a, ha, hab⟩ :=
        launch_first (s.started + 1) (s.tick p) p.timeout (probes s.started) hb
      exact ⟨a, ha, hab.trans hle⟩
  ended k hk := by
    rcases Finset.mem_insert.mp hk with rfl | hk
    · exact le_max_right _ _
    · exact (hr.ended k (Finset.mem_of_mem_filter k hk)).trans (le_max_left _ _)
  last := by
    by_cases hle : f.ended ≤ concluded p probes (s.started + 1)
    · exact .inr ⟨s.started + 1, Finset.mem_insert_self _ _, (max_eq_right hle).symm⟩
    · have hlt := Nat.lt_of_not_le hle
      have htick : s.tick p ≤ concluded p probes (s.started + 1) := Nat.le_add_right _ _
      rcases hr.last with hnow | ⟨k, hk, he⟩
      · have := h.not_late hs
        omega
      · have hrem : k ∈ s.remaining p probes := Finset.mem_filter.mpr ⟨hk, by omega⟩
        exact .inr ⟨k, Finset.mem_insert_of_mem hrem, he.trans (max_eq_left hlt.le).symm⟩
  latest _ := Finset.mem_insert_self _ _

lemma Sound.next (h : Sound p probes s) (hs : s.started < p.maxAttempts)
    (hlate : ∀ k ∈ s.flight, Healthy p probes k → s.tick p < concluded p probes k) :
    Sound p probes (s.next p probes) := by
  have hsettled : Sound p probes ⟨s.tick p, s.started, s.remaining p probes⟩ := {
    started := h.started
    begun := h.begun.trans (h.not_late hs)
    not_late := fun _ => le_rfl
    numbered := fun k hk => h.numbered k (Finset.mem_of_mem_filter k hk)
    pending := fun k hk => (Finset.mem_filter.mp hk).2.le
    overlaps := fun k hk => h.overlaps k (Finset.mem_of_mem_filter k hk)
    gone := by
      intro k h1 hle hk
      by_cases hm : k ∈ s.flight
      · have hn : ¬ s.tick p < concluded p probes k :=
          fun hlt => hk (Finset.mem_filter.mpr ⟨hm, hlt⟩)
        exact ⟨fun hh => hn (hlate k hm hh), Nat.not_lt.mp hn⟩
      · obtain ⟨hf, hc⟩ := h.gone k h1 hle hm
        exact ⟨hf, hc.trans (h.not_late hs)⟩ }
  exact hsettled.launched hs fun k hk => (Finset.mem_filter.mp hk).2

lemma Polls.loops {left started : Nat} (hx : Polls p probes left started f x)
    (hl : started + left = p.maxAttempts) (hs : s.started = started)
    (hnow : s.now = started * p.interval) (h : Sound p probes s) (hr : Represents p probes f s) :
    Loops p probes s x := by
  induction hx generalizing s with
  | @answered left started f a hf hleft =>
    subst hs
    obtain ⟨hm, hh, hi⟩ := hr.first a hf
    have hfirst : ∀ k ∈ s.flight, Healthy p probes k →
        concluded p probes a.number ≤ concluded p probes k := by
      intro k hk hhk
      obtain ⟨b, hb, hle⟩ := hr.soonest k hk hhk
      obtain rfl := Option.some.inj (hf.symm.trans hb)
      exact hi ▸ hle
    have htick : s.started < p.maxAttempts → concluded p probes a.number ≤ s.tick p := by
      intro hlt
      rcases hleft with rfl | ht
      · omega
      · exact hi ▸ ht
    rw [← hnow, arrive, hi]
    exact h.loops_answered hm hh hfirst htick
  | @attempts left started f x htick _ ih =>
    subst hs
    have hlt : s.started < p.maxAttempts := by omega
    have hspan : s.tick p - s.now = p.interval := by
      rw [hnow, Moment.tick, Nat.succ_mul, Nat.add_sub_cancel_left]
    have hlate : ∀ k ∈ s.flight, Healthy p probes k → s.tick p < concluded p probes k := by
      intro k hk hh
      obtain ⟨a, ha, hle⟩ := hr.soonest k hk hh
      exact (htick a ha).trans_le hle
    have hloop := h.loops_launched hlt hlate
      (ih (by omega) rfl rfl (h.next hlt hlate) (hr.next h hlt htick))
    rwa [hspan, leaving_attempted] at hloop
  | unattempted =>
    have he : s.flight = ∅ := by
      apply Finset.eq_empty_of_forall_notMem
      intro k hk
      have := h.numbered k hk
      omega
    have hloop : Loops p probes s _ := .exhausted (hs.trans hl) he
    rwa [← hl] at hloop
  | @exhausted started f hf h0 =>
    subst hs
    have hm := hr.latest h0
    have hdown : ∀ k ∈ s.flight, ¬ Healthy p probes k := by
      intro k hk hh
      obtain ⟨a, ha, _⟩ := hr.soonest k hk hh
      rw [hf] at ha
      cases ha
    have hlast : ∃ k ∈ s.flight, concluded p probes k = f.ended := by
      rcases hr.last with hle | hlast
      · exact ⟨_, hm, le_antisymm (hr.ended _ hm) (hle.trans (h.pending _ hm))⟩
      · exact hlast
    have hloop := h.loops_exhausted hl hdown hr.ended hlast
    have hmax : s.started = p.maxAttempts := hl
    rw [← hmax] at hloop
    rwa [← hnow, givingUp]

lemma poll_loops (p : Policy) (probes : Nat → Probe) : Loops p probes .start (poll p probes) :=
  (poll_polls p probes).loops (Nat.zero_add _) rfl (Nat.zero_mul _).symm (start_sound p probes)
    (start_represents p probes)

lemma poll_justified (p : Policy) (probes : Nat → Probe) (c : Cancellation) :
    ∃ n ≤ p.maxAttempts, ∃ t a,
      (poll p probes).run c = ⟨(List.range' 1 n).flatMap (traces p), some (t, a)⟩ ∧
        Justified p probes n t a := by
  obtain ⟨n, hn, t, a, hr, ha⟩ := (poll_loops p probes).continues (start_sound p probes) c
  simp only [Moment.start, Run.later_zero, Nat.zero_add] at hn hr ha
  exact ⟨n, hn, t, a, hr, ha⟩

lemma poll_found (p : Policy) (probes : Nat → Probe) :
    ∃ n ≤ p.maxAttempts, ∃ t r,
      poll p probes .never = ⟨(List.range' 1 n).flatMap (traces p), some (t, r)⟩ ∧
        ((∃ k, r = .ok k) ↔ ∃ i < n, (probes i).isHealthy p.timeout = true) := by
  obtain ⟨n, hn, t, r, hr, hj⟩ := poll_justified p probes .never
  obtain ⟨_, _, u, r', hr', hs⟩ := poll_course p probes
  obtain ⟨rfl, rfl⟩ : t = u ∧ r = r' := by
    have he := congrArg Run.ending (hr.symm.trans hr')
    simpa using he
  refine ⟨n, hn, t, r, hr, ?_⟩
  cases hs with
  | answered k =>
    obtain ⟨hk, ha⟩ := hj
    obtain ⟨h1, _, hh, _⟩ := arrives_iff.mp ha
    exact ⟨fun _ => ⟨k - 1, by omega, hh⟩, fun _ => ⟨k, rfl⟩⟩
  | timedOut =>
    obtain ⟨_, _, hdown⟩ := hj
    constructor
    · rintro ⟨k, ⟨⟩⟩
    · rintro ⟨i, hi, hh⟩
      exact absurd hh (hdown (i + 1) (by omega) (by omega)).1

/-- A poll whose token may be cancelled at any time. At every moment that its loop may reach, the
probes under way are few, and every run tells what it has seen. -/
structure Safe (p : Policy) (probes : Nat → Probe) (x : Activity Entry (Except Failure Nat)) :
    Prop where
  loops : Loops p probes .start x
  room : ∀ s, Reached p probes s → s.flight.card ≤ max 1 (p.timeout ⌈/⌉ p.interval)
  runs : ∀ c, ∃ n ≤ p.maxAttempts, ∃ t a,
    x.run c = ⟨(List.range' 1 n).flatMap (traces p), some (t, a)⟩ ∧ Justified p probes n t a

theorem poll_safe (p : Policy) (probes : Nat → Probe) (hi : 0 < p.interval) :
    Safe p probes (poll p probes) :=
  ⟨poll_loops p probes, fun _ hs => hs.sound.flight_card hi, poll_justified p probes⟩

def unanswered : Nat → Probe :=
  fun _ => .silence

lemma unanswered_reached : Reached .standard unanswered ⟨2000, 4, {4, 3, 2, 1}⟩ := by
  have h1 : Reached .standard unanswered ⟨500, 1, {1}⟩ :=
    .turn .start (.launched (by decide) (by decide))
  have h2 : Reached .standard unanswered ⟨1000, 2, {2, 1}⟩ :=
    .turn h1 (.launched (by decide) (by decide))
  have h3 : Reached .standard unanswered ⟨1500, 3, {3, 2, 1}⟩ :=
    .turn h2 (.launched (by decide) (by decide))
  exact .turn h3 (.launched (by decide) (by decide))

theorem poll_safe_unanswered :
    0 < Policy.standard.interval ∧
    Reached .standard unanswered ⟨2000, 4, {4, 3, 2, 1}⟩ ∧
    (∀ s, Reached .standard unanswered s → s.flight.card ≤ 4) ∧
    ((poll .standard lateAnswer).run .never).ending = some (1600, .ok 3) ∧
    Arrives .standard lateAnswer 3 1600 := by
  have hi : 0 < Policy.standard.interval := by decide
  refine ⟨hi, unanswered_reached, ?_, rfl, ?_⟩
  · exact (poll_safe .standard unanswered hi).room
  · obtain ⟨n, _, t, a, hr, ha⟩ := (poll_safe .standard lateAnswer hi).runs .never
    have he : some (1600, .ok 3) = some (t, a) := congrArg Run.ending hr
    cases he
    exact ha.2

end FirmwareUpdate.Reconnect
