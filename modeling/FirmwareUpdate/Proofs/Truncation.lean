import FirmwareUpdate.Proofs.Activity

/-! Activities that a cancellation only cuts short. Cancelled at an instant after its end, such an
activity goes as if it were not; cancelled before, it leaves what it writes before that instant and
some last entries, which follow from what it has written. Joined activities are cut short as the one
is that is under way. -/

namespace FirmwareUpdate

variable {ε δ α β : Type}

def earlier (t : Nat) (log : List (Stamped ε)) : List (Stamped ε) :=
  log.filter fun e => e.instant < t

lemma earlier_append (t : Nat) (k l : List (Stamped ε)) :
    earlier t (k ++ l) = earlier t k ++ earlier t l :=
  List.filter_append ..

lemma earlier_later (t u : Nat) (log : List (Stamped ε)) :
    earlier t (log.map (Stamped.later u)) = (earlier (t - u) log).map (Stamped.later u) := by
  have h : ∀ e : Stamped ε, ((e.later u).instant < t ↔ e.instant < t - u) := by
    intro e
    simp only [Stamped.later]
    omega
  simp only [earlier, List.filter_map, Function.comp_def, h]

lemma earlier_map (t : Nat) (g : ε → δ) (log : List (Stamped ε)) :
    earlier t (log.map (Stamped.map g)) = (earlier t log).map (Stamped.map g) := by
  rw [earlier, List.filter_map]
  rfl

lemma earlier_eq_self {t : Nat} {log : List (Stamped ε)} (h : ∀ e ∈ log, e.instant < t) :
    earlier t log = log :=
  List.filter_eq_self.mpr fun e he => decide_eq_true (h e he)

lemma earlier_eq_nil {t : Nat} {log : List (Stamped ε)} (h : ∀ e ∈ log, t ≤ e.instant) :
    earlier t log = [] := by
  apply List.filter_eq_nil_iff.mpr
  intro e he
  simpa using h e he

lemma entries_later_map (t : Nat) (log : List (Stamped ε)) :
    (log.map (Stamped.later t)).map (·.entry) = log.map (·.entry) := by
  simp [Function.comp_def]

namespace Run

def Lasts (r : Run ε α) (t : Nat) : Prop :=
  ∀ e a, r.ending = some (e, a) → t ≤ e

lemma lasts_iff {r : Run ε α} {t e : Nat} {a : α} (h : r.ending = some (e, a)) :
    r.Lasts t ↔ t ≤ e := by
  simp [Lasts, h]

lemma not_lasts {r : Run ε α} {t : Nat} :
    ¬ r.Lasts t ↔ ∃ e a, r.ending = some (e, a) ∧ e < t := by
  simp [Lasts]

lemma lasts_later {r : Run ε α} {t u : Nat} : (r.later u).Lasts t ↔ r.Lasts (t - u) := by
  constructor
  · intro h e a he
    have := h (u + e) a (by rw [ending_later, he]; rfl)
    omega
  · intro h e a he
    rw [ending_later, Option.map_eq_some_iff] at he
    obtain ⟨⟨d, a⟩, hd, he⟩ := he
    cases he
    have := h d a hd
    omega

def before (r : Run ε α) (t : Nat) : List ε :=
  (earlier t r.log).map (·.entry)

def cut (r : Run ε α) (t : Nat) (last : List ε × α) : Run ε α :=
  ⟨earlier t r.log ++ last.1.map (⟨t, ·⟩), some (t, last.2)⟩

/-- Two runs that go alike before an instant, and neither of which ends before it. -/
structure Alike (t : Nat) (r s : Run ε α) : Prop where
  earlier : earlier t r.log = earlier t s.log
  lasts : r.Lasts t ∧ s.Lasts t

namespace Alike

variable {r s : Run ε α} {t u : Nat}

lemma zero (r s : Run ε α) : Alike 0 r s where
  earlier := by
    rw [earlier_eq_nil fun e _ => Nat.zero_le _, earlier_eq_nil fun e _ => Nat.zero_le _]
  lasts := ⟨fun _ _ _ => Nat.zero_le _, fun _ _ _ => Nat.zero_le _⟩

lemma self (h : r.Lasts t) : Alike t r r :=
  ⟨rfl, h, h⟩

lemma later (h : Alike (t - u) r s) : Alike t (r.later u) (s.later u) where
  earlier := by rw [log_later, log_later, earlier_later, earlier_later, h.earlier]
  lasts := ⟨lasts_later.mpr h.lasts.1, lasts_later.mpr h.lasts.2⟩

lemma after (h : Alike t r s) (log : List (Stamped ε)) : Alike t (r.after log) (s.after log) where
  earlier := by rw [log_after, log_after, earlier_append, earlier_append, h.earlier]
  lasts := h.lasts

lemma cut (h : Alike t r s) (last : List ε × α) : r.cut t last = s.cut t last := by
  rw [Run.cut, Run.cut, h.earlier]

end Alike

end Run

namespace Activity

def Prompt (x : Activity ε α) (last : List ε × α) : Prop :=
  ∀ c, x c = ⟨last.1.map (⟨0, ·⟩), some (0, last.2)⟩

namespace Prompt

lemma pure (a : α) : Prompt (Pure.pure a : Activity ε α) ([], a) :=
  fun _ => rfl

lemma write (e : ε) : Prompt (write e) ([e], ()) :=
  fun _ => rfl

lemma bind {x : Activity ε α} {f : α → Activity ε β} {k : List ε × α} {l : List ε × β}
    (hx : Prompt x k) (hf : Prompt (f k.2) l) : Prompt (x >>= f) (k.1 ++ l.1, l.2) := by
  intro c
  rw [bind_of_ends f (x := x) (t := 0) (a := k.2) (by rw [hx]), hf, hx]
  simp [Run.after, Run.later]

lemma map {x : Activity ε α} {k : List ε × α} (hx : Prompt x k) (g : α → β) :
    Prompt (x >>= fun a => Pure.pure (g a)) (k.1, g k.2) := by
  have h := hx.bind (f := fun a => Pure.pure (g a)) (pure (g k.2))
  rwa [List.append_nil] at h

lemma writeAll (es : List ε) : Prompt (writeAll es) (es, ()) := by
  induction es with
  | nil => exact pure ()
  | cons e es ih => exact (write e).bind (l := (es, ())) ih

end Prompt

/-- A cancellation at an instant only cuts an activity short. -/
structure Stops (x : Activity ε α) (stop : List ε → List ε × α) : Prop where
  timely : ∀ e a, (x .never).ending = some (e, a) → ∀ s ∈ (x .never).log, s.instant ≤ e
  late : ∀ t e a, (x .never).ending = some (e, a) → e < t → x (.atInstant t) = x .never
  cut : ∀ t, 0 < t → (x .never).Lasts t →
    x (.atInstant t) = (x .never).cut t (stop ((x .never).before t))

lemma atInstant_after (t u n : Nat) :
    (Cancellation.atInstant t).after u n = .atInstant (t - u) := rfl

lemma atInstant_isDue {t : Nat} (h : 0 < t) : (Cancellation.atInstant t).isDue = false := by
  have ht : t ≠ 0 := by omega
  simp [Cancellation.isDue, Cancellation.atInstant, ht]

lemma atInstant_within {t span : Nat} (h : t ≤ span) :
    (Cancellation.atInstant t).within span = some t := by
  by_cases h0 : t = 0
  · subst h0
    rfl
  · rw [Cancellation.within, atInstant_isDue (Nat.pos_of_ne_zero h0)]
    simp [Cancellation.atInstant, h]

lemma atEntry_after (t m n : Nat) :
    (Cancellation.atEntry m).after t n = .atEntry (m - n) := rfl

lemma atEntry_isDue {n : Nat} : (Cancellation.atEntry n).isDue = decide (n = 0) := by
  simp [Cancellation.isDue, Cancellation.atEntry, Bool.beq_eq_decide_eq]

lemma never_bind_ends {x : Activity ε α} (f : α → Activity ε β) {e : Nat} {a : α}
    (h : (x .never).ending = some (e, a)) :
    (x >>= f) .never = ((f a .never).later e).after (x .never).log :=
  bind_of_ends f h

namespace Stops

variable {x : Activity ε α} {f : α → Activity ε β} {stop : List ε → List ε × α}
  {halt : List ε → List ε × β}

lemma unchanged (hx : Stops x stop) {t : Nat} (ht : ¬ (x .never).Lasts t) :
    x (.atInstant t) = x .never := by
  obtain ⟨e, a, he, hlt⟩ := Run.not_lasts.mp ht
  exact hx.late t e a he hlt

lemma eq_of_alike {y : Activity ε α} (hx : Stops x stop) (hy : Stops y stop) {t : Nat}
    (h0 : 0 < t) (h : Run.Alike t (x .never) (y .never)) : x (.atInstant t) = y (.atInstant t) := by
  have hb : (x .never).before t = (y .never).before t := congrArg (List.map Stamped.entry) h.earlier
  rw [hx.cut t h0 h.lasts.1, hy.cut t h0 h.lasts.2, hb, h.cut]

lemma earlier_bind_first (f : α → Activity ε β) {t : Nat} (ht : (x .never).Lasts t) :
    earlier t ((x >>= f) .never).log = earlier t (x .never).log := by
  cases hn : (x .never).ending with
  | none => rw [bind_of_stops f hn]
  | some e =>
    obtain ⟨e, a⟩ := e
    have hnil : earlier t ((f a .never).log.map (Stamped.later e)) = [] := by
      apply earlier_eq_nil
      intro s hs
      obtain ⟨s, _, rfl⟩ := List.mem_map.mp hs
      exact (ht e a hn).trans (Nat.le_add_right e s.instant)
    rw [never_bind_ends f hn, Run.log_after, Run.log_later, earlier_append, hnil, List.append_nil]

lemma before_bind_first (f : α → Activity ε β) {t : Nat} (ht : (x .never).Lasts t) :
    ((x >>= f) .never).before t = (x .never).before t :=
  congrArg (List.map Stamped.entry) (earlier_bind_first f ht)

lemma bind_first (hx : Stops x stop) {t : Nat} (h0 : 0 < t) (ht : (x .never).Lasts t)
    {last : List ε × β} (hf : Prompt (f (stop ((x .never).before t)).2) last) :
    (x >>= f) (.atInstant t) =
      ((x >>= f) .never).cut t ((stop ((x .never).before t)).1 ++ last.1, last.2) := by
  have hr := hx.cut t h0 ht
  rw [bind_of_ends f (t := t) (a := (stop ((x .never).before t)).2) (by rw [hr]; rfl), hf, hr,
    Run.cut, Run.cut, earlier_bind_first f ht]
  simp [Run.after, Run.later, Stamped.later]

variable {e : Nat} {a : α}

lemma earlier_bind_second (hx : Stops x stop) (f : α → Activity ε β)
    (he : (x .never).ending = some (e, a)) {t : Nat} (ht : e < t) :
    earlier t ((x >>= f) .never).log =
      (x .never).log ++ (earlier (t - e) (f a .never).log).map (Stamped.later e) := by
  have hl : ∀ s ∈ (x .never).log, s.instant < t :=
    fun s hs => (hx.timely e a he s hs).trans_lt ht
  rw [never_bind_ends f he, Run.log_after, Run.log_later, earlier_append, earlier_eq_self hl,
    earlier_later]

lemma before_bind_second (hx : Stops x stop) (f : α → Activity ε β)
    (he : (x .never).ending = some (e, a)) {t : Nat} (ht : e < t) :
    ((x >>= f) .never).before t = (x .never).entries ++ (f a .never).before (t - e) := by
  rw [Run.before, hx.earlier_bind_second f he ht, List.map_append, entries_later_map]
  rfl

lemma bind_second (hx : Stops x stop) (he : (x .never).ending = some (e, a))
    (hf : Stops (f a) halt) {t : Nat} (ht : e < t) (hl : ((x >>= f) .never).Lasts t) :
    (x >>= f) (.atInstant t) =
      ((x >>= f) .never).cut t (halt ((f a .never).before (t - e))) := by
  have hlast : (f a .never).Lasts (t - e) := by
    intro v b hv
    have := hl (e + v) b (by rw [never_bind_ends f he]; simp [hv])
    omega
  have hr := hx.late t e a he ht
  rw [bind_of_ends f (t := e) (a := a) (by rw [hr, he]), hr, atInstant_after,
    hf.cut (t - e) (by omega) hlast, Run.cut, Run.cut, hx.earlier_bind_second f he ht]
  simp [Run.after, Run.later, Stamped.later, Function.comp_def, Nat.add_sub_cancel' ht.le]

lemma bind_ending {u : Nat} {b : β} (h : ((x >>= f) .never).ending = some (u, b)) :
    ∃ e a v, (x .never).ending = some (e, a) ∧ (f a .never).ending = some (v, b) ∧ u = e + v := by
  cases hn : (x .never).ending with
  | none =>
    rw [bind_of_stops f hn] at h
    cases h
  | some e =>
    obtain ⟨e, a⟩ := e
    rw [never_bind_ends f hn, Run.ending_after, Run.ending_later, Option.map_eq_some_iff] at h
    obtain ⟨⟨v, b⟩, hv, hu⟩ := h
    cases hu
    exact ⟨e, a, v, rfl, hv, rfl⟩

lemma bind_lasts (f : α → Activity ε β) {t : Nat} (ht : (x .never).Lasts t) :
    ((x >>= f) .never).Lasts t := by
  intro u b hu
  obtain ⟨e, a, v, he, _, rfl⟩ := bind_ending hu
  exact (ht e a he).trans (Nat.le_add_right e v)

lemma bind_timely (hx : Stops x stop) {halts : α → List ε → List ε × β}
    (hf : ∀ e a, (x .never).ending = some (e, a) → Stops (f a) (halts a)) {u : Nat} {b : β}
    (hu : ((x >>= f) .never).ending = some (u, b)) :
    ∀ s ∈ ((x >>= f) .never).log, s.instant ≤ u := by
  obtain ⟨e, a, v, he, hv, rfl⟩ := bind_ending hu
  intro s hs
  rw [never_bind_ends f he, Run.log_after, Run.log_later, List.mem_append, List.mem_map] at hs
  rcases hs with hs | ⟨s, hs, rfl⟩
  · exact (hx.timely e a he s hs).trans (Nat.le_add_right e v)
  · exact Nat.add_le_add_left ((hf e a he).timely v b hv s hs) e

lemma bind_late (hx : Stops x stop) {halts : α → List ε → List ε × β}
    (hf : ∀ e a, (x .never).ending = some (e, a) → Stops (f a) (halts a)) {t u : Nat} {b : β}
    (hu : ((x >>= f) .never).ending = some (u, b)) (ht : u < t) :
    (x >>= f) (.atInstant t) = (x >>= f) .never := by
  obtain ⟨e, a, v, he, hv, rfl⟩ := bind_ending hu
  have hr := hx.late t e a he (by omega)
  rw [bind_of_ends f (t := e) (a := a) (by rw [hr, he]), hr, atInstant_after,
    (hf e a he).late (t - e) v b hv (by omega), never_bind_ends f he]

theorem bind (hx : Stops x stop)
    (hf : ∀ e a, (x .never).ending = some (e, a) →
      Stops (f a) fun log => halt ((x .never).entries ++ log))
    (hs : ∀ t, 0 < t → (x .never).Lasts t →
      ∃ last, Prompt (f (stop ((x .never).before t)).2) last ∧
        halt ((x .never).before t) = ((stop ((x .never).before t)).1 ++ last.1, last.2)) :
    Stops (x >>= f) halt where
  timely u b hu := hx.bind_timely hf hu
  late t u b hu ht := hx.bind_late hf hu ht
  cut t h0 hl := by
    -- Up to its end the first is cut, and the second has only its last entries to add.
    by_cases ht : (x .never).Lasts t
    · obtain ⟨last, hlast, hhalt⟩ := hs t h0 ht
      rw [hx.bind_first h0 ht hlast, before_bind_first f ht, hhalt]
    · obtain ⟨e, a, he, hlt⟩ := Run.not_lasts.mp ht
      rw [hx.bind_second he (hf e a he) hlt hl, hx.before_bind_second f he hlt]

lemma prompt {last : List ε × α} (h : Prompt x last) : Stops x stop where
  timely e a he s hs := by
    rw [h] at he hs
    cases he
    obtain ⟨d, _, rfl⟩ := List.mem_map.mp hs
    exact Nat.le_refl 0
  late t e a he ht := by rw [h, h]
  cut t h0 hl := by
    have := hl 0 last.2 (by rw [h])
    omega

lemma prompt_bind {last : List ε × α} (h : Prompt x last)
    (hf : Stops (f last.2) fun log => halt (last.1 ++ log)) : Stops (x >>= f) halt := by
  have hx : Stops x fun _ => last := prompt h
  refine hx.bind ?_ ?_
  · intro e a he
    rw [h] at he
    cases he
    rw [h]
    simpa [Run.entries, Function.comp_def] using hf
  · intro t h0 hl
    have := hl 0 last.2 (by rw [h])
    omega

lemma await (span : Nat) : Stops (await span : Activity ε Bool) fun _ => ([], false) where
  timely e a he s hs := by simp [Activity.await] at hs
  late t e a he ht := by
    obtain rfl : span = e := by
      simp [Activity.await] at he
      exact he.1
    have hw : (Cancellation.atInstant t).within span = none := by
      apply Cancellation.within_eq_none
      rw [atInstant_after]
      exact atInstant_isDue (Nat.sub_pos_of_lt ht)
    simp [Activity.await, hw]
  cut t h0 hl := by
    have ht : t ≤ span := hl span true (by simp [Activity.await])
    simp [Activity.await, atInstant_within ht, Run.cut, earlier]

lemma await_bind {span : Nat} {g : Bool → Activity ε β} (hover : Stops (g true) halt)
    (hcut : Prompt (g false) (halt [])) : Stops (Activity.await span >>= g) halt := by
  refine (await span).bind ?_ ?_
  · intro e a he
    obtain ⟨rfl, rfl⟩ : span = e ∧ true = a := by simpa [Activity.await] using he
    simpa [Activity.await, Run.entries] using hover
  · intro t h0 hl
    exact ⟨halt [], hcut, by simp [Activity.await, Run.before, earlier]⟩

lemma goesOn_bind {g : Bool → Activity ε β} (hg : Stops (g true) halt) :
    Stops (goesOn >>= g) halt := by
  refine (await 0).bind ?_ ?_
  · intro e a he
    obtain ⟨rfl, rfl⟩ : 0 = e ∧ true = a := by simpa [Activity.await] using he
    simpa [Activity.await, Run.entries] using hg
  · intro t h0 hl
    have := hl 0 true (by simp [Activity.await])
    omega

lemma awaitCancellation_bind {g : Unit → Activity ε β} (hcut : Prompt (g ()) (halt [])) :
    Stops (awaitCancellation >>= g) halt := by
  have ha : Stops (awaitCancellation : Activity ε Unit) fun _ => ([], ()) := by
    constructor
    · intro e a he
      cases he
    · intro t e a he
      cases he
    · intro t h0 _
      have hw : (awaitCancellation : Activity ε Unit) (.atInstant t) = ⟨[], some (t, ())⟩ := by
        simp only [awaitCancellation, atInstant_isDue h0]
        rfl
      rw [hw]
      rfl
  refine ha.bind ?_ ?_
  · intro e a he
    cases he
  · intro t h0 _
    exact ⟨halt [], hcut, rfl⟩

lemma mapLog {g : ε → δ} {halt : List δ → List δ × α} (hx : Stops x stop)
    (hs : ∀ log, halt (log.map g) = ((stop log).1.map g, (stop log).2)) :
    Stops (x.mapLog g) halt where
  timely e a he s hmem := by
    obtain ⟨r, hr, rfl⟩ := List.mem_map.mp hmem
    exact hx.timely e a he r hr
  late t e a he ht := by
    have hl := hx.late t e a he ht
    simp only [Activity.mapLog, hl]
  cut t h0 hl := by
    have hc := hx.cut t h0 hl
    have hb : (x.mapLog g .never).before t = ((x .never).before t).map g := by
      simp [Run.before, Activity.mapLog, earlier_map, Function.comp_def]
    rw [hb, hs]
    simp [Activity.mapLog, hc, Run.cut, earlier_map, Function.comp_def, Stamped.map]

end Stops

end Activity

end FirmwareUpdate
