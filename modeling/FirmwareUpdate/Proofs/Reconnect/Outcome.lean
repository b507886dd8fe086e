import FirmwareUpdate.Proofs.Reconnect.Attempts

/-! What comes of polling a device. A poll that is not cancelled ends with the healthy answer that
comes first, or, if none comes, when the last attempt is over; every attempt starts at its own
multiple of the interval. -/

namespace FirmwareUpdate.Reconnect

def Arrives (p : Policy) (probes : Nat → Probe) (k instant : Nat) : Prop :=
  1 ≤ k ∧ k ≤ p.maxAttempts ∧
    ∃ delay ≤ p.timeout, probes (k - 1) = .answer delay true ∧ instant = k * p.interval + delay

def concluded (p : Policy) (probes : Nat → Probe) (k : Nat) : Nat :=
  k * p.interval + (probes (k - 1)).span p.timeout

def traces (p : Policy) (k : Nat) : List (Stamped Entry) :=
  [⟨k * p.interval, .attempt ⟨k, p.maxAttempts, p.interval, p.timeout⟩⟩,
    ⟨k * p.interval, .probe⟩]

variable {p : Policy} {probes : Nat → Probe}

lemma span_le (q : Probe) (timeout : Nat) : q.span timeout ≤ timeout := by
  cases q with
  | answer delay healthy => exact Nat.min_le_right delay timeout
  | silence => exact Nat.le_refl timeout

lemma arrives_iff {k t : Nat} :
    Arrives p probes k t ↔ 1 ≤ k ∧ k ≤ p.maxAttempts ∧
      (probes (k - 1)).isHealthy p.timeout = true ∧ t = concluded p probes k := by
  simp only [Arrives, concluded]
  cases probes (k - 1) with
  | silence => simp [Probe.isHealthy]
  | answer delay healthy =>
    simp only [Probe.isHealthy, Probe.span, Probe.answer.injEq, Bool.and_eq_true,
      decide_eq_true_eq]
    constructor
    · rintro ⟨h1, hm, d, hd, ⟨rfl, rfl⟩, ht⟩
      exact ⟨h1, hm, ⟨rfl, hd⟩, by rw [ht, Nat.min_eq_left hd]⟩
    · rintro ⟨h1, hm, ⟨rfl, hd⟩, ht⟩
      exact ⟨h1, hm, delay, hd, ⟨rfl, rfl⟩, by rw [ht, Nat.min_eq_left hd]⟩

lemma Arrives.start_le {k t : Nat} (h : Arrives p probes k t) : k * p.interval ≤ t := by
  obtain ⟨_, _, d, _, _, rfl⟩ := h
  exact Nat.le_add_right _ _

lemma concluded_le {k : Nat} (hk : k ≤ p.maxAttempts) :
    concluded p probes k ≤ p.maxAttempts * p.interval + p.timeout :=
  Nat.add_le_add (Nat.mul_le_mul_right _ hk) (span_le _ _)

lemma arrive_later {started now : Nat} {a : Arrival} (h : now ≤ a.instant) :
    (arrive started now a .never).later now = ⟨[], some (a.instant, .ok a.number)⟩ := by
  rw [arrive_never]
  simp [Run.later, Nat.add_sub_cancel' h]

lemma attempting_later (p : Policy) (started : Nat) (x : Activity Entry (Except Failure Nat)) :
    (attempting p started x .never).later (started * p.interval) =
      ((x .never).later ((started + 1) * p.interval)).after (traces p (started + 1)) := by
  have hm : started * p.interval + p.interval = (started + 1) * p.interval :=
    (Nat.succ_mul _ _).symm
  rw [attempting_never]
  simp [hm, traces, attempted, Stamped.later]

lemma givingUp_later {started now ended : Nat} (h : now ≤ ended) :
    (givingUp started (ended - now) .never).later now =
      ⟨[], some (ended, .error (.timedOut started))⟩ := by
  rw [givingUp_never]
  simp [Run.later, Nat.add_sub_cancel' h]

structure Leads (h t started : Nat) (f : Flight) : Prop where
  ahead : started < h → ∀ a, f.first = some a → t < a.instant
  under_way : h ≤ started → f.first = some ⟨h, t⟩

lemma Leads.launch {h t started : Nat} {f : Flight} (hl : Leads h t started f)
    (ha : Arrives p probes h t) (hfirst : ∀ k u, Arrives p probes k u → k ≠ h → t < u)
    (hs : started < p.maxAttempts) :
    Leads h t (started + 1)
      (f.launch (started + 1) ((started + 1) * p.interval) (probes started) p.timeout) := by
  have hb : (probes started).isHealthy p.timeout = true →
      Arrives p probes (started + 1) (concluded p probes (started + 1)) :=
    fun hp => arrives_iff.mpr ⟨by omega, by omega, hp, rfl⟩
  obtain ⟨hh1, _, hh, ht⟩ := arrives_iff.mp ha
  constructor
  · intro hlt a hfa
    simp only [Flight.launch] at hfa
    split_ifs at hfa with hp
    · have hu := hfirst _ _ (hb hp) (by omega)
      cases hf : f.first with
      | none =>
        obtain rfl : _ = a := by simpa [hf] using hfa
        exact hu
      | some b =>
        have hbt := hl.ahead (by omega) b hf
        obtain rfl : _ = a := by simpa [hf] using hfa
        simp only [Flight.sooner]
        split_ifs
        · exact hu
        · exact hbt
    · exact hl.ahead (by omega) a hfa
  · intro hle
    by_cases he : h = started + 1
    · subst h
      have ht' : (started + 1) * p.interval + (probes started).span p.timeout = t := ht.symm
      simp only [Nat.add_sub_cancel] at hh
      cases hf : f.first with
      | none => simp [Flight.launch, hf, hh, ht']
      | some b =>
        have hbt := hl.ahead (by omega) b hf
        simp [Flight.launch, hf, hh, ht', Flight.sooner, hbt]
    · have hf := hl.under_way (by omega)
      by_cases hp : (probes started).isHealthy p.timeout = true
      · have hu := hfirst _ _ (hb hp) (by omega)
        have hnu : ¬ (started + 1) * p.interval + (probes started).span p.timeout < t :=
          Nat.not_lt.mpr (Nat.le_of_lt hu)
        simp [Flight.launch, hf, hp, Flight.sooner, hnu]
      · simpa [Flight.launch, hp] using hf

def madeBefore (p : Policy) (h t k : Nat) : Bool :=
  k * p.interval < t ∨ k = h

lemma madeBefore_tick {h t started : Nat} (hi : 0 < p.interval) (ha : Arrives p probes h t)
    (hn : h ≤ started → (started + 1) * p.interval < t) :
    madeBefore p h t (started + 1) = true := by
  simp only [madeBefore, decide_eq_true_eq]
  by_cases hle : h ≤ started + 1
  · omega
  · have hlt : (started + 1) * p.interval < h * p.interval :=
      Nat.mul_lt_mul_of_pos_right (by omega) hi
    exact .inl (hlt.trans_le ha.start_le)

lemma not_madeBefore {h t started k : Nat} (hh : h ≤ started)
    (ht : t ≤ (started + 1) * p.interval) (hk : started + 1 ≤ k) : ¬ madeBefore p h t k = true := by
  have hm : (started + 1) * p.interval ≤ k * p.interval := Nat.mul_le_mul_right _ hk
  simp only [madeBefore, decide_eq_true_eq]
  omega

lemma Leads.answered {h t left started : Nat} {f : Flight} {a : Arrival} (hl : Leads h t started f)
    (ha : Arrives p probes h t) (hs : started + left = p.maxAttempts) (hf : f.first = some a)
    (hleft : left = 0 ∨ a.instant ≤ (started + 1) * p.interval) : h ≤ started ∧ a = ⟨h, t⟩ := by
  have hle : h ≤ started := by
    by_contra hlt
    have hstart : (started + 1) * p.interval ≤ t :=
      (Nat.mul_le_mul_right _ (by omega)).trans ha.start_le
    have hlate := hl.ahead (by omega) a hf
    have hmax := ha.2.1
    omega
  exact ⟨hle, Option.some.inj (hf.symm.trans (hl.under_way hle))⟩

lemma Polls.first {h t left started : Nat} {f : Flight} {x : Activity Entry (Except Failure Nat)}
    (hx : Polls p probes left started f x) (hi : 0 < p.interval) (ha : Arrives p probes h t)
    (hfirst : ∀ k u, Arrives p probes k u → k ≠ h → t < u)
    (hs : started + left = p.maxAttempts) (hl : Leads h t started f)
    (hn : h ≤ started → started * p.interval ≤ t) :
    (x .never).later (started * p.interval) =
      ⟨((List.range' (started + 1) left).filter (madeBefore p h t)).flatMap (traces p),
        some (t, .ok h)⟩ := by
  induction hx with
  | @answered left started f a hf hleft =>
    obtain ⟨hle, rfl⟩ := hl.answered ha hs hf hleft
    have hnone : (List.range' (started + 1) left).filter (madeBefore p h t) = [] := by
      rcases hleft with rfl | ht
      · rfl
      · exact List.filter_eq_nil_iff.mpr fun k hk =>
          not_madeBefore hle ht (List.mem_range'_1.mp hk).1
    rw [arrive_later (hn hle), hnone, List.flatMap_nil]
  | @attempts left started f x htick _ ih =>
    have hlate : h ≤ started → (started + 1) * p.interval < t :=
      fun hle => htick _ (hl.under_way hle)
    have hnext : h ≤ started + 1 → (started + 1) * p.interval ≤ t := by
      intro hle
      by_cases hh : h = started + 1
      · exact hh ▸ ha.start_le
      · exact (hlate (by omega)).le
    rw [attempting_later, ih (by omega) (hl.launch ha hfirst (by omega)) hnext, List.range'_succ,
      List.filter_cons_of_pos (madeBefore_tick hi ha hlate), List.flatMap_cons]
    rfl
  | unattempted hf | exhausted hf =>
    -- All attempts are made, that of the answer among them.
    have hmax := ha.2.1
    rw [hl.under_way (by omega)] at hf
    cases hf

structure Fails (p : Policy) (probes : Nat → Probe) (started : Nat) (f : Flight) : Prop where
  first : f.first = none
  ended : f.ended = (Finset.Icc 1 started).sup (concluded p probes)

lemma Fails.launch {started : Nat} {f : Flight} (hf : Fails p probes started f)
    (hnone : ∀ k t, ¬ Arrives p probes k t) (hs : started < p.maxAttempts) :
    Fails p probes (started + 1)
      (f.launch (started + 1) ((started + 1) * p.interval) (probes started) p.timeout) := by
  have hp : ¬ (probes started).isHealthy p.timeout = true := fun hp =>
    hnone (started + 1) _ (arrives_iff.mpr ⟨by omega, by omega, hp, rfl⟩)
  constructor
  · simp only [Flight.launch, if_neg hp, hf.first]
  · rw [← Finset.insert_Icc_right_eq_Icc_add_one (by omega), Finset.sup_insert, sup_comm]
    simp only [Flight.launch, hf.ended]
    rfl

lemma Fails.ended_le {started : Nat} {f : Flight} (hf : Fails p probes started f)
    (h0 : started ≠ 0) : started * p.interval ≤ f.ended := by
  have hm : started ∈ Finset.Icc 1 started := Finset.mem_Icc.mpr ⟨by omega, le_rfl⟩
  rw [hf.ended]
  exact (Nat.le_add_right _ _).trans (Finset.le_sup (f := concluded p probes) hm)

lemma Polls.fails {left started : Nat} {f : Flight} {x : Activity Entry (Except Failure Nat)}
    (hx : Polls p probes left started f x) (hnone : ∀ k t, ¬ Arrives p probes k t)
    (hs : started + left = p.maxAttempts) (hf : Fails p probes started f) :
    (x .never).later (started * p.interval) =
      ⟨(List.range' (started + 1) left).flatMap (traces p),
        some ((Finset.Icc 1 p.maxAttempts).sup (concluded p probes),
          .error (.timedOut p.maxAttempts))⟩ := by
  induction hx with
  | answered ha =>
    rw [hf.first] at ha
    cases ha
  | attempts _ _ ih =>
    rw [attempting_later, ih (by omega) (hf.launch hnone (by omega)), List.range'_succ,
      List.flatMap_cons]
    rfl
  | unattempted =>
    rw [← hs]
    simp
  | @exhausted started f _ h0 =>
    obtain rfl : started = p.maxAttempts := hs
    rw [givingUp_later (hf.ended_le h0), hf.ended]
    rfl

lemma exists_first (h : ∃ k t, Arrives p probes k t) :
    ∃ h t, Arrives p probes h t ∧ ∀ k u, Arrives p probes k u → t ≤ u := by
  classical
  have he : ∃ t k, Arrives p probes k t := by
    obtain ⟨k, t, ha⟩ := h
    exact ⟨t, k, ha⟩
  obtain ⟨h, ha⟩ := Nat.find_spec he
  exact ⟨h, Nat.find he, ha, fun k u hu => Nat.find_min' he ⟨k, hu⟩⟩

lemma poll_first {h t : Nat} (hi : 0 < p.interval) (ha : Arrives p probes h t)
    (hfirst : ∀ k u, Arrives p probes k u → k ≠ h → t < u) :
    poll p probes .never =
      ⟨((List.range' 1 p.maxAttempts).filter (madeBefore p h t)).flatMap (traces p),
        some (t, .ok h)⟩ := by
  have hl : Leads h t 0 Flight.none := by
    constructor
    · intro _ a hf
      cases hf
    · intro hh
      have := ha.1
      omega
  simpa using (poll_polls p probes).first hi ha hfirst (Nat.zero_add _) hl (by simp)

lemma poll_fails (hnone : ∀ k t, ¬ Arrives p probes k t) :
    poll p probes .never =
      ⟨(List.range' 1 p.maxAttempts).flatMap (traces p),
        some ((Finset.Icc 1 p.maxAttempts).sup (concluded p probes),
          .error (.timedOut p.maxAttempts))⟩ := by
  have hf : Fails p probes 0 Flight.none := ⟨rfl, by simp [Flight.none]⟩
  simpa using (poll_polls p probes).fails hnone (Nat.zero_add _) hf

theorem poll_outcome (p : Policy) (probes : Nat → Probe) (hi : 0 < p.interval)
    (hd : ∀ j k t, Arrives p probes j t → Arrives p probes k t → j = k) :
    ((∃ k t, Arrives p probes k t) → ∃ h t, Arrives p probes h t ∧
      (∀ k u, Arrives p probes k u → t ≤ u) ∧
      (poll p probes).run .never =
        ⟨((List.range' 1 p.maxAttempts).filter (madeBefore p h t)).flatMap (traces p),
          some (t, .ok h)⟩) ∧
    ((¬ ∃ k t, Arrives p probes k t) →
      (poll p probes).run .never =
        ⟨(List.range' 1 p.maxAttempts).flatMap (traces p),
          some ((Finset.Icc 1 p.maxAttempts).sup (concluded p probes),
            .error (.timedOut p.maxAttempts))⟩) ∧
    ∃ t a, ((poll p probes).run .never).ending = some (t, a) ∧
      t ≤ p.maxAttempts * p.interval + p.timeout := by
  have hreach : (∃ k t, Arrives p probes k t) → ∃ h t, Arrives p probes h t ∧
      (∀ k u, Arrives p probes k u → t ≤ u) ∧ poll p probes .never =
        ⟨((List.range' 1 p.maxAttempts).filter (madeBefore p h t)).flatMap (traces p),
          some (t, .ok h)⟩ := by
    intro he
    obtain ⟨h, t, ha, hl⟩ := exists_first he
    refine ⟨h, t, ha, hl, poll_first hi ha ?_⟩
    intro k u hu hk
    refine lt_of_le_of_ne (hl k u hu) ?_
    rintro rfl
    exact hk (hd k h t hu ha)
  have hfail : (¬ ∃ k t, Arrives p probes k t) → poll p probes .never = _ :=
    fun hn => poll_fails fun k t ha => hn ⟨k, t, ha⟩
  refine ⟨hreach, hfail, ?_⟩
  by_cases he : ∃ k t, Arrives p probes k t
  · obtain ⟨h, t, ha, _, hr⟩ := hreach he
    have ht := (arrives_iff.mp ha).2.2.2
    exact ⟨t, .ok h, congrArg Run.ending hr, ht ▸ concluded_le ha.2.1⟩
  · refine ⟨_, _, congrArg Run.ending (hfail he), Finset.sup_le ?_⟩
    intro k hk
    exact concluded_le (Finset.mem_Icc.mp hk).2

def lateAnswer : Nat → Probe
  | 0 => .silence
  | 1 => .answer 1300 true
  | 2 => .answer 100 true
  | _ => .answer 0 false

theorem poll_outcome_lateAnswer :
    0 < Policy.standard.interval ∧
    (∀ j k t, Arrives .standard lateAnswer j t → Arrives .standard lateAnswer k t → j = k) ∧
    (poll .standard lateAnswer).run .never =
      ⟨[1, 2, 3].flatMap (traces .standard), some (1600, .ok 3)⟩ := by
  have hall : ∀ k t, Arrives .standard lateAnswer k t ↔ k = 2 ∧ t = 2300 ∨ k = 3 ∧ t = 1600 := by
    intro k t
    rw [arrives_iff]
    match k with
    | 0 => simp
    | 1 => simp [lateAnswer, Probe.isHealthy]
    | 2 => simp [lateAnswer, Probe.isHealthy, Policy.standard, concluded, Probe.span]
    | 3 => simp [lateAnswer, Probe.isHealthy, Policy.standard, concluded, Probe.span]
    | k + 4 => simp [lateAnswer, Probe.isHealthy]
  have hd : ∀ j k t, Arrives .standard lateAnswer j t → Arrives .standard lateAnswer k t → j = k := by
    intro j k t hj hk
    rw [hall] at hj hk
    omega
  have hi : 0 < Policy.standard.interval := by decide
  refine ⟨hi, hd, ?_⟩
  obtain ⟨h, t, ha, hl, hr⟩ :=
    (poll_outcome .standard lateAnswer hi hd).1 ⟨3, 1600, (hall 3 1600).mpr (by simp)⟩
  have ht := hl 3 1600 ((hall 3 1600).mpr (by simp))
  rw [hall] at ha
  obtain ⟨rfl, rfl⟩ : h = 3 ∧ t = 1600 := by omega
  rw [hr]
  rfl

end FirmwareUpdate.Reconnect
