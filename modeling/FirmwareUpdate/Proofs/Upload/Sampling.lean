import FirmwareUpdate.Proofs.Upload.Grammar
import FirmwareUpdate.Proofs.Upload.Reports

/-! The numbers of a tracker. Whatever counts, totals and instants it is given, the bytes sent are
never taken back and those of the last sample are among them, and two samples are half a second
apart. With one total all the way, no report exceeds it, and the report that reaches it completes
the transfer. -/

namespace FirmwareUpdate.Upload

def Tracker.Operation.instant? : Tracker.Operation → Option Nat
  | .start _ _ now | .progress _ _ now => some now
  | .answer _ | .fail _ | .cancel => none

def Tracker.told (t : Tracker) : List Tracker.Operation → List (Option Nat × Event)
  | [] => []
  | o :: os => (t.step o).2.map (o.instant?, ·) ++ told (t.step o).1 os

def Event.sent? : Event → Option Nat
  | .progress sent _ _ => some sent
  | _ => none

def counted (log : List (Option Nat × Event)) : List Nat :=
  log.filterMap fun e => e.2.sent?

def sampled (log : List (Option Nat × Event)) : List (Option Nat) :=
  (log.filter fun e => e.2.isSample).map Prod.fst

variable {t u : Tracker} {o : Tracker.Operation} {es : List Event} {s : Session}
  {log : List (Option Nat × Event)} {instants : List Nat} {n : Nat}

lemma told_events (t : Tracker) (os : List Tracker.Operation) :
    (t.told os).map Prod.snd = (t.run os).2 := by
  induction os generalizing t with
  | nil => rfl
  | cons o os ih => simp [Tracker.told, Tracker.run, ih, Function.comp_def]

lemma counted_told (t : Tracker) (os : List Tracker.Operation) :
    counted (t.told os) = (t.run os).2.filterMap Event.sent? := by
  rw [← told_events, List.filterMap_map]
  rfl

lemma counted_append (i : Option Nat) (es : List Event) :
    counted (log ++ es.map (i, ·)) = counted log ++ es.filterMap Event.sent? := by
  simp [counted, List.filterMap_map]

lemma sampled_append (i : Option Nat) (es : List Event) :
    sampled (log ++ es.map (i, ·)) =
      sampled log ++ (es.filter Event.isSample).map fun _ => i := by
  simp [sampled, List.filter_map, Function.comp_def]

lemma report_sent (s : Session) (loaded total now : Nat) :
    (s.report loaded total now).filterMap Event.sent? =
      [(s.reported loaded total now).sent] := by
  rw [Session.report, Session.tally]
  split_ifs <;> rfl

lemma report_samples (s : Session) (loaded total now : Nat) :
    (s.report loaded total now).filter Event.isSample =
      if Apart s.sampledAt now then [Tracker.sampleOf (Tracker.advance s loaded total) now]
      else [] := by
  rw [Session.report, Session.tally]
  split_ifs <;> rfl

lemma pairwise_snoc {R : Nat → Nat → Prop} {l : List Nat} {v : Nat} (hl : l.Pairwise R)
    (hv : ∀ u ∈ l, R u v) : (l ++ [v]).Pairwise R := by
  rw [List.pairwise_append]
  refine ⟨hl, List.pairwise_singleton R v, ?_⟩
  intro u hu w hw
  obtain rfl := List.mem_singleton.mp hw
  exact hv u hu

lemma Apart.trans_le {u v w : Nat} (h : u ≤ v) (ha : Apart v w) : Apart u w := by
  simp only [Apart] at ha ⊢
  omega

lemma le_last {l : List Nat} {u v : Nat} (hl : l.Pairwise Apart) (hv : l.getLast? = some v)
    (hu : u ∈ l) : u ≤ v := by
  obtain ⟨k, rfl⟩ := List.getLast?_eq_some_iff.mp hv
  rw [List.mem_append, List.mem_singleton] at hu
  rcases hu with hu | rfl
  · have ha := (List.pairwise_append.mp hl).2.2 u hu v (List.mem_singleton_self v)
    exact (Nat.le_add_right _ _).trans ha
  · exact le_rfl

structure Spaced (log : List (Option Nat × Event)) (s : Session) (instants : List Nat) : Prop where
  told : sampled log = instants.map some
  apart : (s.startedAt :: instants).Pairwise Apart
  last : (s.startedAt :: instants).getLast? = some s.sampledAt

structure Measures (log : List (Option Nat × Event)) (s : Session) : Prop where
  bytes : s.sampledBytes ≤ s.sent
  sent : ∀ n ∈ counted log, n ≤ s.sent
  grows : (counted log).Pairwise (· ≤ ·)
  spaced : ∃ instants, Spaced log s instants

lemma Spaced.sampledAt (h : Spaced log s instants) : s.startedAt ≤ s.sampledAt :=
  le_last h.apart h.last List.mem_cons_self

lemma Spaced.sample (h : Spaced log s instants) (loaded total : Nat) {now : Nat}
    (ha : Apart s.sampledAt now) :
    Spaced (log ++ (s.report loaded total now).map (some now, ·)) (s.reported loaded total now)
      (instants ++ [now]) := by
  constructor
  · rw [sampled_append, report_samples, if_pos ha, h.told, List.map_append]
    rfl
  · apply pairwise_snoc h.apart
    intro u hu
    exact ha.trans_le (le_last h.apart h.last hu)
  · change (s.startedAt :: instants ++ [now]).getLast? = _
    rw [List.getLast?_concat]
    simp only [Session.reported, if_pos ha]

lemma Spaced.unsampled (h : Spaced log s instants) (loaded total : Nat) {now : Nat}
    (ha : ¬ Apart s.sampledAt now) :
    Spaced (log ++ (s.report loaded total now).map (some now, ·)) (s.reported loaded total now)
      instants := by
  constructor
  · rw [sampled_append, report_samples, if_neg ha, h.told]
    exact List.append_nil _
  · exact h.apart
  · simp only [Session.reported, if_neg ha]
    exact h.last

lemma Measures.report (h : Measures log s) (loaded total now : Nat) :
    Measures (log ++ (s.report loaded total now).map (some now, ·))
      (s.reported loaded total now) := by
  have hs : s.sent ≤ (s.reported loaded total now).sent := le_max_left _ _
  constructor
  · simp only [Session.reported]
    split
    · exact le_rfl
    · exact h.bytes.trans hs
  · rw [counted_append, report_sent]
    intro n hn
    rw [List.mem_append, List.mem_singleton] at hn
    rcases hn with hn | rfl
    · exact (h.sent n hn).trans hs
    · exact le_rfl
  · rw [counted_append, report_sent]
    apply pairwise_snoc h.grows
    intro n hn
    exact (h.sent n hn).trans hs
  · obtain ⟨instants, hi⟩ := h.spaced
    by_cases ha : Apart s.sampledAt now
    · exact ⟨_, hi.sample loaded total ha⟩
    · exact ⟨_, hi.unsampled loaded total ha⟩

lemma Measures.ended (h : Measures log s) (i : Option Nat) (x : Status) (r : Result) :
    Measures (log ++ [Event.status x, .finished r].map (i, ·)) { s with status := x } := by
  have hc : counted (log ++ [Event.status x, .finished r].map (i, ·)) = counted log := by
    rw [counted_append]
    exact List.append_nil _
  obtain ⟨instants, hi⟩ := h.spaced
  constructor
  · exact h.bytes
  · rw [hc]
    exact h.sent
  · rw [hc]
    exact h.grows
  · refine ⟨instants, ?_, hi.apart, hi.last⟩
    rw [sampled_append, hi.told]
    exact List.append_nil _

lemma measures_started (name : String) (size now : Nat) :
    Measures [(some now, .status .uploading)] ⟨name, size, now, 0, now, 0, .uploading⟩ := by
  constructor
  · exact le_rfl
  · intro n hn
    cases hn
  · exact .nil
  · exact ⟨[], rfl, List.pairwise_singleton _ _, rfl⟩

inductive Gauged : List (Option Nat × Event) → Tracker → Prop
  | new : Gauged [] .new
  | session {log : List (Option Nat × Event)} {s : Session} {r : Option Result} :
      Measures log s → Gauged log ⟨some s, r⟩

lemma Gauged.takes (h : Gauged log t) (ht : Takes t o u es) :
    Gauged (log ++ es.map (o.instant?, ·)) u := by
  cases ht with
  | unheard => simpa using h
  | started name size now hn =>
    cases h with
    | new => exact .session (measures_started name size now)
    | session => cases hn
  | reported loaded total now hs =>
    cases h with
    | new => cases hs
    | session h =>
      obtain rfl := Option.some.inj hs
      exact .session (h.report loaded total now)
  | ended hs =>
    cases h with
    | new => cases hs
    | session h =>
      obtain rfl := Option.some.inj hs
      exact .session (h.ended _ _ _)

lemma Gauged.run (h : Gauged log t) (os : List Tracker.Operation) :
    Gauged (log ++ t.told os) (t.run os).1 := by
  induction os generalizing log t with
  | nil => simpa [Tracker.told, Tracker.run] using h
  | cons o os ih =>
    have hr := ih (h.takes (step_takes t o))
    rw [List.append_assoc] at hr
    exact hr

lemma Gauged.measures (h : Gauged log t) (hs : t.session = some s) : Measures log s := by
  cases h with
  | new => cases hs
  | session h =>
    obtain rfl := Option.some.inj hs
    exact h

lemma Gauged.grows (h : Gauged log t) : (counted log).Pairwise (· ≤ ·) := by
  cases h with
  | new => exact .nil
  | session h => exact h.grows

structure Within (n : Nat) (es : List Event) (t : Tracker) : Prop where
  sent : ∀ s, t.session = some s → s.sent ≤ n
  told : ∀ sent total percent, .progress sent total percent ∈ es → total = n ∧ sent ≤ n

lemma Within.takes (h : Within n es t) {fs : List Event} (ht : Takes t o u fs)
    (hn : ∀ loaded total now, o = .progress loaded total now → total = n) :
    Within n (es ++ fs) u := by
  cases ht with
  | unheard => simpa using h
  | started name size now hs =>
    constructor
    · intro s hs
      cases hs
      exact Nat.zero_le n
    · intro sent total percent hm
      exact h.told sent total percent (by simpa using hm)
  | @reported s loaded total now hs hu =>
    obtain rfl := hn loaded total now rfl
    have hle : (s.reported loaded total now).sent ≤ total :=
      max_le (h.sent s hs) (Nat.min_le_right _ _)
    constructor
    · intro s' hs'
      cases hs'
      exact hle
    · intro sent m percent hm
      rw [List.mem_append, mem_report] at hm
      rcases hm with hm | hm | ⟨_, hm⟩ | ⟨_, hm⟩
      · exact h.told sent m percent hm
      · cases hm
        exact ⟨rfl, hle⟩
      · cases hm
      · cases hm
  | @ended s _ _ _ hs =>
    constructor
    · intro s' hs'
      cases hs'
      exact h.sent s hs
    · intro sent total percent hm
      exact h.told sent total percent (by simpa using hm)

lemma Within.run (h : Within n es t) {os : List Tracker.Operation}
    (hn : ∀ loaded total now, .progress loaded total now ∈ os → total = n) :
    Within n (es ++ (t.run os).2) (t.run os).1 := by
  induction os generalizing es t with
  | nil => simpa [Tracker.run] using h
  | cons o os ih =>
    have ho := h.takes (step_takes t o) fun loaded total now he =>
      hn loaded total now (he ▸ List.mem_cons_self)
    have hr := ih ho fun loaded total now hm => hn loaded total now (List.mem_cons_of_mem o hm)
    rw [List.append_assoc] at hr
    exact hr

lemma within_new (n : Nat) : Within n [] .new := by
  constructor
  · intro s hs
    cases hs
  · intro sent total percent hm
    cases hm

lemma reported_complete (hs : s.sent ≤ n) (hu : s.status = .uploading) (loaded now : Nat) :
    (s.reported loaded n now).status = .validating ↔ (s.reported loaded n now).sent = n := by
  have hle : max s.sent (min loaded n) ≤ n := max_le hs (Nat.min_le_right _ _)
  simp only [Session.reported, hu]
  split <;> simp <;> omega

lemma exists_sample {loaded total now : Nat} :
    (∃ e ∈ s.report loaded total now, e.isSample = true) ↔ Apart s.sampledAt now := by
  constructor
  · rintro ⟨e, hm, he⟩
    rw [mem_report] at hm
    rcases hm with rfl | ⟨ha, _⟩ | ⟨_, rfl⟩
    · cases he
    · exact ha
    · cases he
  · intro ha
    exact ⟨_, mem_report.mpr (.inr (.inl ⟨ha, rfl⟩)), rfl⟩

lemma sample_speed {loaded total now : Nat} {percent speed : Float} {left : Option Float}
    (h : .sample percent speed left ∈ s.report loaded total now) :
    Apart s.sampledAt now ∧
      speed = float ((s.reported loaded total now).sent - s.sampledBytes) /
        seconds (now - s.sampledAt) := by
  rw [mem_report] at h
  rcases h with h | ⟨ha, h⟩ | ⟨_, h⟩
  · cases h
  · cases h
    exact ⟨ha, rfl⟩
  · cases h

structure Measured (os : List Tracker.Operation) (s : Session) : Prop where
  kept : ∀ more, ∃ s', (Tracker.new.run (os ++ more)).1.session = some s' ∧ s.sent ≤ s'.sent
  bytes : s.sampledBytes ≤ s.sent
  since : s.startedAt ≤ s.sampledAt
  spaced : ∃ instants, Spaced (Tracker.new.told os) s instants
  samples : s.status = .uploading → ∀ loaded total now,
    (∃ e ∈ ((Tracker.new.run os).1.progress loaded total now).2, e.isSample = true) ↔
      Apart s.sampledAt now
  speed : ∀ loaded total now percent speed left,
    .sample percent speed left ∈ ((Tracker.new.run os).1.progress loaded total now).2 →
      0 < now - s.sampledAt ∧
      ∃ s', ((Tracker.new.run os).1.progress loaded total now).1.session = some s' ∧
        s.sampledBytes ≤ s'.sent ∧
        speed = float (s'.sent - s.sampledBytes) / seconds (now - s.sampledAt)

lemma Measures.measured {os : List Tracker.Operation} (h : Measures (Tracker.new.told os) s)
    (hs : (Tracker.new.run os).1.session = some s) : Measured os s := by
  obtain ⟨instants, hi⟩ := h.spaced
  constructor
  · intro more
    obtain ⟨s', hs', hc⟩ := run_continues hs more
    rw [run_append]
    exact ⟨s', hs', hc.sent⟩
  · exact h.bytes
  · exact hi.sampledAt
  · exact ⟨instants, hi⟩
  · intro hu loaded total now
    rw [progress_reported hs hu]
    exact exists_sample
  · intro loaded total now percent speed left hm
    by_cases hu : s.status = .uploading
    · rw [progress_reported hs hu] at hm ⊢
      obtain ⟨ha, hspeed⟩ := sample_speed hm
      have hsent : s.sent ≤ (s.reported loaded total now).sent := le_max_left _ _
      refine ⟨?_, _, rfl, h.bytes.trans hsent, hspeed⟩
      simp only [Apart] at ha
      omega
    · simp [Tracker.progress, hs, hu] at hm

theorem run_measured (os : List Tracker.Operation) :
    ((Tracker.new.run os).2.filterMap Event.sent?).Pairwise (· ≤ ·) ∧
    (∀ s, (Tracker.new.run os).1.session = some s → Measured os s) ∧
    ∀ n, (∀ loaded total now, .progress loaded total now ∈ os → total = n) →
      (∀ sent total percent, .progress sent total percent ∈ (Tracker.new.run os).2 →
        total = n ∧ sent ≤ n) ∧
      ((Tracker.new.run os).1.status = .uploading → ∀ loaded now,
        ∃ s, ((Tracker.new.run os).1.progress loaded n now).1.session = some s ∧ s.total = n ∧
          (s.status = .validating ↔ s.sent = n)) := by
  have hg : Gauged (Tracker.new.told os) (Tracker.new.run os).1 := Gauged.new.run os
  refine ⟨?_, ?_, ?_⟩
  · rw [← counted_told]
    exact hg.grows
  · intro s hs
    exact (hg.measures hs).measured hs
  · intro n hn
    have hw : Within n (Tracker.new.run os).2 (Tracker.new.run os).1 := (within_new n).run hn
    refine ⟨hw.told, ?_⟩
    intro hu loaded now
    obtain ⟨s, hs⟩ := exists_session (t := (Tracker.new.run os).1) (by simp [hu])
    rw [status_of_session hs] at hu
    rw [progress_reported hs hu]
    exact ⟨_, rfl, rfl, reported_complete (hw.sent s hs) hu loaded now⟩

def halfSent : List Tracker.Operation :=
  [.start "fw.bin" 4 0, .progress 2 4 600000000]

theorem run_measured_halfSent :
    (∀ loaded total now, .progress loaded total now ∈ halfSent → total = 4) ∧
    (∀ sent total percent, .progress sent total percent ∈ (Tracker.new.run halfSent).2 →
      total = 4 ∧ sent ≤ 4) ∧
    (∃ e ∈ ((Tracker.new.run halfSent).1.progress 1 9 1100000000).2, e.isSample = true) ∧
    (¬ ∃ e ∈ ((Tracker.new.run halfSent).1.progress 1 9 1099999999).2, e.isSample = true) ∧
    ∃ s, ((Tracker.new.run halfSent).1.progress 4 4 0).1.session = some s ∧ s.total = 4 ∧
      (s.status = .validating ↔ s.sent = 4) := by
  have hn : ∀ loaded total now, .progress loaded total now ∈ halfSent → total = 4 := by
    intro loaded total now hm
    simp only [halfSent, List.mem_cons, List.not_mem_nil, or_false, reduceCtorEq, false_or,
      Tracker.Operation.progress.injEq] at hm
    exact hm.2.1
  obtain ⟨_, hmeasured, htotal⟩ := run_measured halfSent
  obtain ⟨htold, hcomplete⟩ := htotal 4 hn
  have hsamples := (hmeasured ⟨"fw.bin", 4, 0, 2, 600000000, 2, .uploading⟩ rfl).samples rfl
  refine ⟨hn, htold, (hsamples 1 9 _).mpr (by decide), ?_, hcomplete rfl 4 0⟩
  rw [hsamples]
  decide

end FirmwareUpdate.Upload
