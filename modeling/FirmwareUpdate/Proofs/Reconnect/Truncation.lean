import FirmwareUpdate.Proofs.Reconnect.Course

/-! A poll cut short, beside the same poll left alone. Up to its cancellation it makes the attempts
that the other makes, and then it tells how many those are; a cancellation that comes with an attempt
lets its probe start, and no other. -/

namespace FirmwareUpdate.Reconnect

variable {p : Policy} {probes : Nat → Probe} {left started : Nat} {f : Flight}
  {x : Activity Entry (Except Failure Nat)} {a : Attempt} {t : Nat}
  {front rest : List (Stamped Entry)}

lemma Polls.early (h : Polls p probes left started f x) (hf : f.first = none) (hl : left ≠ 0)
    (ht : t ≤ p.interval) :
    x (.atInstant t) = ⟨[], some (t, .error (.cancelled started))⟩ := by
  cases h with
  | answered ha =>
    rw [hf] at ha
    cases ha
  | attempts => exact attempting_cancelled (Activity.atInstant_within ht)
  | unattempted | exhausted => exact absurd rfl hl

lemma poll_early (hm : 0 < p.maxAttempts) (ht : t ≤ p.interval) :
    poll p probes (.atInstant t) = ⟨[], some (t, .error (.cancelled 0))⟩ :=
  (poll_polls p probes).early rfl hm.ne' ht

lemma poll_cut (hm : 0 < p.maxAttempts) (hl : (poll p probes .never).Lasts t) :
    poll p probes (.atInstant t) =
      ⟨earlier t (poll p probes .never).log,
        some (t, .error (.cancelled (((poll p probes .never).before t).countP Entry.isAttempt)))⟩ := by
  by_cases h0 : t = 0
  · subst h0
    have hn : earlier 0 (poll p probes .never).log = [] := earlier_eq_nil fun e _ => Nat.zero_le _
    rw [poll_early hm (Nat.zero_le _), Run.before, hn]
    rfl
  · rw [(poll_stops p probes).cut t (Nat.pos_of_ne_zero h0) hl]
    simp [Run.cut, givenUp]

lemma later_split {log : List (Stamped Entry)} {span : Nat} {e : Entry}
    (h : log.map (Stamped.later span) = front ++ ⟨t, e⟩ :: rest) :
    ∃ k u l, log = k ++ ⟨u, e⟩ :: l ∧ front = k.map (Stamped.later span) ∧ t = span + u := by
  obtain ⟨k, tail, rfl, rfl, htail⟩ := List.map_eq_append_iff.mp h
  obtain ⟨⟨u, _⟩, l, rfl, hu, -⟩ := List.map_eq_cons_iff.mp htail
  cases hu
  exact ⟨k, u, l, rfl, rfl, rfl⟩

lemma Polls.announced (h : Polls p probes left started f x)
    (hx : (x .never).log = front ++ ⟨t, .attempt a⟩ :: rest) :
    x (.atEntry (front.length + 1)) =
      ⟨front ++ [⟨t, .attempt a⟩, ⟨t, .probe⟩], some (t, .error (.cancelled a.number))⟩ := by
  induction h generalizing front t rest with
  | answered =>
    rw [arrive_never] at hx
    simp at hx
  | @attempts left started f x _ hp ih =>
    have hw : (Cancellation.atEntry (front.length + 1)).within p.interval = none := by
      apply Cancellation.within_eq_none
      simp [Activity.atEntry_after, Activity.atEntry_isDue]
    rw [attempting_never, Run.log_later, Run.log_after, List.map_append] at hx
    rw [attempting_over hw, Activity.atEntry_after]
    -- Each turn leaves two entries: the attempt is that of this turn, or comes with a later one.
    match front with
    | [] =>
      cases hx
      rw [hp.due (.inr (Nat.succ_ne_zero started)) rfl]
      simp [attempted, Run.later, Run.after, Stamped.later]
    | [e] => cases hx
    | e :: d :: front =>
      obtain ⟨he, hmore⟩ := List.cons_eq_cons.mp hx
      obtain ⟨hd, hmore⟩ := List.cons_eq_cons.mp hmore
      obtain ⟨k, u, l, hlog, rfl, rfl⟩ := later_split hmore
      simp [← he, ← hd, ih hlog, attempted, Run.later, Run.after, Stamped.later]
  | unattempted => simp at hx
  | exhausted =>
    rw [givingUp_never] at hx
    simp at hx

/-- The runs of a poll with a token that is cancelled, beside its run `whole` without. -/
structure CutShort (p : Policy) (probes : Nat → Probe) (whole : Run Entry (Except Failure Nat)) :
    Prop where
  ends : ∃ e r, whole.ending = some (e, r)
  cut : 0 < p.maxAttempts → ∀ t, whole.Lasts t → (poll p probes).run (.atInstant t) =
    ⟨earlier t whole.log, some (t, .error (.cancelled ((whole.before t).countP Entry.isAttempt)))⟩
  early : 0 < p.maxAttempts → ∀ t ≤ p.interval,
    (poll p probes).run (.atInstant t) = ⟨[], some (t, .error (.cancelled 0))⟩
  beforehand : 0 < p.maxAttempts →
    (poll p probes).run .before = ⟨[], some (0, .error (.cancelled 0))⟩
  late : ∀ t, ¬ whole.Lasts t → (poll p probes).run (.atInstant t) = whole
  announced : ∀ front t a rest, whole.log = front ++ ⟨t, .attempt a⟩ :: rest →
    (poll p probes).run (.atEntry (front.length + 1)) =
      ⟨front ++ [⟨t, .attempt a⟩, ⟨t, .probe⟩], some (t, .error (.cancelled a.number))⟩
  unattempted : p.maxAttempts = 0 → ∀ c,
    (poll p probes).run c = ⟨[], some (0, .error (.timedOut 0))⟩

theorem poll_cut_short (p : Policy) (probes : Nat → Probe) :
    CutShort p probes ((poll p probes).run .never) where
  ends := by
    obtain ⟨_, _, e, r, hr, _⟩ := poll_course p probes
    exact ⟨e, r, congrArg Run.ending hr⟩
  cut hm t hl := poll_cut hm hl
  early hm t ht := poll_early hm ht
  beforehand hm := (poll_polls p probes).due (.inl hm.ne') rfl
  late t hl := (poll_stops p probes).unchanged hl
  announced front t a rest h := (poll_polls p probes).announced h
  unattempted hm c := poll_unattempted hm probes c

theorem poll_cut_short_lateAnswer :
    ((poll .standard lateAnswer).run .never).ending = some (1600, .ok 3) ∧
    (poll .standard lateAnswer).run (.atInstant 1500) =
      ⟨[1, 2].flatMap (traces .standard), some (1500, .error (.cancelled 2))⟩ ∧
    (poll .standard lateAnswer).run (.atInstant 1600) =
      ⟨[1, 2, 3].flatMap (traces .standard), some (1600, .error (.cancelled 3))⟩ ∧
    (poll .standard lateAnswer).run (.atInstant 1601) = (poll .standard lateAnswer).run .never ∧
    (poll .standard lateAnswer).run (.atEntry 3) =
      ⟨[1, 2].flatMap (traces .standard), some (1000, .error (.cancelled 2))⟩ := by
  have h := poll_cut_short .standard lateAnswer
  have hm : 0 < Policy.standard.maxAttempts := by decide
  have he : ((poll .standard lateAnswer).run .never).ending = some (1600, .ok 3) := rfl
  have hl : ∀ t ≤ 1600, ((poll .standard lateAnswer).run .never).Lasts t :=
    fun t ht => (Run.lasts_iff he).mpr ht
  refine ⟨he, ?_, ?_, ?_, ?_⟩
  · exact h.cut hm 1500 (hl 1500 (by decide))
  · exact h.cut hm 1600 (hl 1600 (by decide))
  · exact h.late 1601 (Run.not_lasts.mpr ⟨1600, _, he, by decide⟩)
  · exact h.announced (traces .standard 1) 1000 _ _ rfl

end FirmwareUpdate.Reconnect
