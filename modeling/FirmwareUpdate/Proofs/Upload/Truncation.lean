import FirmwareUpdate.Proofs.Upload.Ending

/-! An upload cut short, beside the same upload left alone. Up to its cancellation it goes as the
other does, whatever its device has still to do, and then it ends at once; once the device is through
its steps, a cancellation comes too late. -/

namespace FirmwareUpdate.Upload

def Step.span : Step → Nat
  | .sleep span => span
  | .send _ | .yield | .close | .stall => 0

def Occupies (t : Nat) (steps : List Step) : Prop :=
  .stall ∈ steps ∨ t ≤ (steps.map Step.span).sum

lemma Occupies.tail {t : Nat} {step : Step} {steps : List Step} (h : Occupies t (step :: steps))
    (hs : step ≠ .stall) : Occupies (t - step.span) steps := by
  rcases h with h | h
  · exact .inl ((List.mem_cons.mp h).resolve_left hs.symm)
  · rw [List.map_cons, List.sum_cons] at h
    exact .inr (by omega)

lemma proceed_alike {t : Nat} {first : List Step} (h : Occupies t first) (n : Nat)
    (rest others : List Step) (ending ending' : Ending) (p : Progress) :
    Run.Alike t (proceed n ending (first ++ rest) p .never)
      (proceed n ending' (first ++ others) p .never) := by
  induction first generalizing t p with
  | nil =>
    obtain rfl : t = 0 := by simpa [Occupies] using h
    exact .zero _ _
  | cons step first ih =>
    rw [List.cons_append, List.cons_append]
    cases step with
    | send count => exact ih (h.tail (by simp)) _
    | close => exact ih (h.tail (by simp)) _
    | yield =>
      rw [yield_never, yield_never]
      exact (ih (h.tail (by simp)) _).after _
    | sleep span =>
      cases span with
      | zero => exact ih (h.tail (by simp)) _
      | succ span =>
        rw [sleep_never, sleep_never]
        exact ((ih (h.tail (by simp)) _).later).after _
    | stall =>
      -- Neither ever comes to its further steps.
      rw [stall_never, stall_never]
      apply Run.Alike.self
      intro e a he
      cases he

lemma drive_alike {t : Nat} {first : List Step} {transfer other : Transfer}
    (h : Occupies t first) (ht : first <+: transfer.steps) (ho : first <+: other.steps)
    (image : Image) : Run.Alike t (drive image transfer .never) (drive image other .never) := by
  obtain ⟨rest, hrest⟩ := ht
  obtain ⟨others, hothers⟩ := ho
  rw [drive_going rfl, drive_going rfl, ← hrest, ← hothers]
  exact (proceed_alike h _ rest others _ _ _).after _

lemma proceed_endless {n : Nat} {ending : Ending} {steps : List Step} (hs : .stall ∈ steps)
    (p : Progress) : (proceed n ending steps p .never).ending = none := by
  induction steps generalizing p with
  | nil => cases hs
  | cons step steps ih =>
    cases step with
    | send count => exact ih (by simpa using hs) _
    | close => exact ih (by simpa using hs) _
    | yield =>
      rw [yield_never]
      exact ih (by simpa using hs) _
    | sleep span =>
      cases span with
      | zero => exact ih (by simpa using hs) _
      | succ span =>
        rw [sleep_never, Run.ending_after, Run.ending_later, ih (by simpa using hs) _]
        rfl
    | stall => rw [stall_never]

/-- The device is through its steps at an instant, after some entries. All that is left to do is done
at once, and no cancellation from then on is seen. -/
structure Delivers (x : Activity Entry Result) (front : List (Stamped Entry)) (u : Nat) : Prop where
  run : ∃ (es : List Event) (r : Result), x .never =
    ⟨front ++ ⟨u, .delivered⟩ :: es.map fun e => ⟨u, .event e⟩, some (u, r)⟩
  first : ∀ e ∈ front, e.entry ≠ .delivered
  deaf : ∀ c, (c.after u front.length).isDue = false → x c = x .never

lemma settle_delivers (n : Nat) (ending : Ending) (p : Progress) :
    Delivers (proceed n ending [] p) [] 0 := by
  obtain ⟨es, r, hes⟩ : ∃ (es : List Event) (r : Result),
      Activity.Prompt (settle n ending p) (es.map .event, r) := ⟨_, _, settle_prompt n ending p⟩
  have hp : ∀ c, proceed n ending [] p c =
      ⟨⟨0, .delivered⟩ :: es.map fun e => ⟨0, .event e⟩, some (0, r)⟩ := by
    intro c
    rw [proceed, Activity.write_bind, hes]
    simp [Run.after, Function.comp_def]
  constructor
  · exact ⟨es, r, hp .never⟩
  · intro e he
    cases he
  · intro c _
    rw [hp, hp]

lemma Delivers.showPending {n now : Nat} {t : Tracker} {counts : List Nat}
    {f : Tracker × Bool → Activity Entry Result} {front : List (Stamped Entry)} {u : Nat}
    (h : Delivers (f ((drain n now t counts).1, true)) front u) :
    Delivers (showPending n now t counts >>= f)
      (((drain n now t counts).2.map fun e => ⟨0, .event e⟩) ++ front) u := by
  obtain ⟨es, r, hr⟩ := h.run
  constructor
  · refine ⟨es, r, ?_⟩
    rw [showPending_never, hr]
    simp [Run.after]
  · intro e he
    rw [List.mem_append, List.mem_map] at he
    rcases he with ⟨e, _, rfl⟩ | he
    · simp
    · exact h.first e he
  · intro c hc
    have hk : ((c.after 0 (drain n now t counts).2.length).after u front.length).isDue = false := by
      simpa using hc
    rw [showPending_going (Cancellation.not_due_of_after hk), h.deaf _ hk, showPending_never]

lemma Delivers.await {span u : Nat} {g : Bool → Activity Entry Result}
    {front : List (Stamped Entry)} (h : Delivers (g true) front u) :
    Delivers (.await span >>= g) (front.map (Stamped.later span)) (span + u) := by
  obtain ⟨es, r, hr⟩ := h.run
  constructor
  · refine ⟨es, r, ?_⟩
    rw [Activity.await_bind_never, hr]
    simp [Run.later, Stamped.later, Function.comp_def]
  · intro e he
    obtain ⟨d, hd, rfl⟩ := List.mem_map.mp he
    exact h.first d hd
  · intro c hc
    have hk : ((c.after span 0).after u front.length).isDue = false := by simpa using hc
    rw [Activity.await_bind_over g (Cancellation.within_eq_none (Cancellation.not_due_of_after hk)),
      h.deaf _ hk, Activity.await_bind_never]

lemma proceed_delivers {steps : List Step} (hs : .stall ∉ steps) (n : Nat) (ending : Ending)
    (p : Progress) : ∃ front u, Delivers (proceed n ending steps p) front u := by
  induction steps generalizing p with
  | nil => exact ⟨_, _, settle_delivers n ending p⟩
  | cons step steps ih =>
    have hs' : .stall ∉ steps := fun hm => hs (List.mem_cons_of_mem _ hm)
    cases step with
    | send count => exact ih hs' _
    | close => exact ih hs' _
    | yield =>
      obtain ⟨front, u, h⟩ := ih hs' (p.drained n)
      exact ⟨_, u, .showPending h⟩
    | sleep span =>
      cases span with
      | zero => exact ih hs' _
      | succ span =>
        obtain ⟨front, u, h⟩ := ih hs' { p.drained n with elapsed := p.elapsed + (span + 1) }
        exact ⟨_, _, .showPending (.await h)⟩
    | stall => exact absurd List.mem_cons_self hs

lemma drive_delivers {transfer : Transfer} (hs : .stall ∉ transfer.steps) (image : Image) :
    ∃ front u, Delivers (drive image transfer) front u := by
  obtain ⟨front, u, h⟩ := proceed_delivers hs image.data.size transfer.ending
    ⟨begun image, [], false, 0⟩
  obtain ⟨es, r, hr⟩ := h.run
  refine ⟨[⟨0, .event (.status .uploading)⟩, ⟨0, .started image⟩] ++ front, u, ?_, ?_, ?_⟩
  · refine ⟨es, r, ?_⟩
    rw [drive_going rfl, Cancellation.never_after, hr]
    rfl
  · simpa using h.first
  · intro c hc
    have hk : ((c.after 0 2).after u front.length).isDue = false := by
      rw [Cancellation.after_after, Nat.zero_add, Nat.add_comm]
      exact hc
    have hg : (c.after 0 1).isDue = false := by
      apply Cancellation.not_due_of_after (t := 0) (n := 1)
      rw [Cancellation.after_after]
      exact Cancellation.not_due_of_after hk
    rw [drive_going hg, drive_going rfl, h.deaf _ hk, Cancellation.never_after]

/-- The runs of an upload with a token that is cancelled, beside its run `whole` without. -/
structure CutShort (image : Image) (transfer : Transfer) (whole : Run Entry Result) : Prop where
  endless : .stall ∈ transfer.steps → whole.ending = none
  cut : ∀ t, 0 < t → whole.Lasts t → (drive image transfer).run (.atInstant t) =
    ⟨earlier t whole.log ++
      [⟨t, .event (.status .cancelled)⟩, ⟨t, .event (.finished (.error .cancelled))⟩],
      some (t, .error .cancelled)⟩
  unread : ∀ t first (other : Transfer), 0 < t → Occupies t first → first <+: transfer.steps →
    first <+: other.steps →
    (drive image other).run (.atInstant t) = (drive image transfer).run (.atInstant t)
  late : ∀ t, ¬ whole.Lasts t → (drive image transfer).run (.atInstant t) = whole
  beforehand : (drive image transfer).run .before =
    ⟨[⟨0, .event (.status .uploading)⟩, ⟨0, .event (.status .cancelled)⟩,
      ⟨0, .event (.finished (.error .cancelled))⟩], some (0, .error .cancelled)⟩
  settling : .stall ∉ transfer.steps → ∃ (front : List (Stamped Entry)) (u : Nat)
    (es : List Event) (r : Result),
    whole = ⟨front ++ ⟨u, .delivered⟩ :: es.map fun e => ⟨u, .event e⟩, some (u, r)⟩ ∧
    (∀ e ∈ front, e.entry ≠ .delivered) ∧
    ∀ n, front.length < n → (drive image transfer).run (.atEntry n) = whole

theorem drive_cut_short (image : Image) (transfer : Transfer) :
    CutShort image transfer ((drive image transfer).run .never) where
  endless hs := by
    change (drive image transfer .never).ending = none
    rw [drive_going rfl]
    exact proceed_endless hs _
  cut t h0 hl := (drive_stops image transfer).cut t h0 hl
  unread t first other h0 h ht ho :=
    (drive_stops image other).eq_of_alike (drive_stops image transfer) h0
      (drive_alike h ho ht image)
  late t hl := (drive_stops image transfer).unchanged hl
  beforehand := drive_due rfl image transfer
  settling hs := by
    obtain ⟨front, u, h⟩ := drive_delivers hs image
    obtain ⟨es, r, hr⟩ := h.run
    refine ⟨front, u, es, r, hr, h.first, ?_⟩
    intro n hn
    apply h.deaf
    rw [Activity.atEntry_after, Activity.atEntry_isDue]
    exact decide_eq_false (by omega)

def smallImage : Image := ⟨"fw.bin", ⟨#[7, 7, 7, 7]⟩⟩

theorem drive_cut_short_shortTransfer :
    ((drive smallImage shortTransfer).run .never).ending = some (700, .error (.http 500)) ∧
    ((drive smallImage shortTransfer).run (.atInstant 700)).ending =
      some (700, .error .cancelled) ∧
    (drive smallImage ⟨[.send 3, .yield, .send 1, .sleep 700, .stall], .aborted⟩).run
      (.atInstant 700) = (drive smallImage shortTransfer).run (.atInstant 700) ∧
    (drive smallImage shortTransfer).run (.atInstant 701) =
      (drive smallImage shortTransfer).run .never := by
  have h := drive_cut_short smallImage shortTransfer
  have he : ((drive smallImage shortTransfer).run .never).ending =
      some (700, .error (.http 500)) := rfl
  have hl : ((drive smallImage shortTransfer).run .never).Lasts 700 :=
    (Run.lasts_iff he).mpr le_rfl
  refine ⟨he, ?_, ?_, ?_⟩
  · rw [h.cut 700 (by decide) hl]
  · apply h.unread 700 [.send 3, .yield, .send 1, .sleep 700] _ (by decide)
    · exact .inr (by decide)
    · exact ⟨[.close, .yield, .send 4], rfl⟩
    · exact ⟨[.stall], rfl⟩
  · apply h.late 701
    exact Run.not_lasts.mpr ⟨700, _, he, by decide⟩

end FirmwareUpdate.Upload
