import FirmwareUpdate.Proofs.Upload.Operation

/-! Reports commute. A tracker that has just been started and hears of nothing but reports on one
total stands where the greatest of their counts puts it, whatever their order and their instants, and
however often one of them comes. -/

namespace FirmwareUpdate.Upload

structure Report where
  loaded : Nat
  now : Nat

def Report.operation (total : Nat) (r : Report) : Tracker.Operation :=
  .progress r.loaded total r.now

def greatest (reports : List Report) : Nat :=
  (reports.map Report.loaded).foldr max 0

def Tracker.hear (t : Tracker) (total : Nat) (reports : List Report) : Tracker × List Event :=
  t.run (reports.map (Report.operation total))

def Tracker.sent? (t : Tracker) : Option Nat :=
  t.session.map Session.sent

def Tracker.started (name : String) (size now : Nat) : Tracker :=
  (Tracker.new.start name size now).1

variable {reports others : List Report} {r : Report} {total : Nat} {t : Tracker} {s : Session}

lemma loaded_le_greatest (h : r ∈ reports) : r.loaded ≤ greatest reports :=
  List.le_max_of_le (List.mem_map_of_mem h) le_rfl

lemma greatest_le {n : Nat} (h : ∀ r ∈ reports, r.loaded ≤ n) : greatest reports ≤ n := by
  apply List.max_le_of_forall_le
  intro loaded hl
  obtain ⟨r, hr, rfl⟩ := List.mem_map.mp hl
  exact h r hr

lemma greatest_snoc (reports : List Report) (r : Report) :
    greatest (reports ++ [r]) = max (greatest reports) r.loaded := by
  apply le_antisymm
  · apply greatest_le
    intro q hq
    rcases List.mem_append.mp hq with hq | hq
    · exact (loaded_le_greatest hq).trans (le_max_left _ _)
    · obtain rfl := List.mem_singleton.mp hq
      exact le_max_right _ _
  · apply max_le
    · exact greatest_le fun q hq => loaded_le_greatest (List.mem_append_left _ hq)
    · exact loaded_le_greatest (List.mem_append_right _ (List.mem_singleton_self r))

def Completes (total : Nat) (reports : List Report) : Prop :=
  ∃ r ∈ reports, total ≤ r.loaded

instance (total : Nat) (reports : List Report) : Decidable (Completes total reports) :=
  inferInstanceAs (Decidable (∃ r ∈ reports, total ≤ r.loaded))

lemma completes_snoc :
    Completes total (reports ++ [r]) ↔ Completes total reports ∨ total ≤ r.loaded := by
  constructor
  · rintro ⟨q, hq, hl⟩
    rcases List.mem_append.mp hq with hq | hq
    · exact .inl ⟨q, hq, hl⟩
    · exact .inr (List.mem_singleton.mp hq ▸ hl)
  · rintro (⟨q, hq, hl⟩ | hl)
    · exact ⟨q, List.mem_append_left _ hq, hl⟩
    · exact ⟨r, List.mem_append_right _ (List.mem_singleton_self r), hl⟩

lemma greatest_lt (h : ¬ Completes total reports) (h0 : 0 < total) : greatest reports < total := by
  have hle : greatest reports ≤ total - 1 := by
    apply greatest_le
    intro r hr
    by_contra hl
    exact h ⟨r, hr, by omega⟩
  omega

lemma completes_iff : Completes total reports ↔ reports ≠ [] ∧ total ≤ greatest reports := by
  constructor
  · rintro ⟨r, hr, hl⟩
    exact ⟨List.ne_nil_of_mem hr, hl.trans (loaded_le_greatest hr)⟩
  · rintro ⟨hne, hle⟩
    by_contra h
    obtain ⟨r, hr⟩ := List.exists_mem_of_ne_nil reports hne
    have h0 : 0 < total := by
      by_contra h0
      exact h ⟨r, hr, by omega⟩
    have hlt := greatest_lt h h0
    omega

def SameCounts (reports others : List Report) : Prop :=
  ∀ n, n ∈ reports.map Report.loaded ↔ n ∈ others.map Report.loaded

namespace SameCounts

lemma symm (h : SameCounts reports others) : SameCounts others reports :=
  fun n => (h n).symm

lemma exists_report (h : SameCounts reports others) (hr : r ∈ reports) :
    ∃ q ∈ others, q.loaded = r.loaded :=
  List.mem_map.mp ((h r.loaded).mp (List.mem_map_of_mem hr))

lemma greatest_le (h : SameCounts reports others) : greatest reports ≤ greatest others := by
  apply Upload.greatest_le
  intro r hr
  obtain ⟨q, hq, hl⟩ := h.exists_report hr
  exact hl ▸ loaded_le_greatest hq

lemma completes (h : SameCounts reports others) (hc : Completes total reports) :
    Completes total others := by
  obtain ⟨r, hr, hl⟩ := hc
  obtain ⟨q, hq, he⟩ := h.exists_report hr
  exact ⟨q, hq, he ▸ hl⟩

end SameCounts

structure Tallies (total : Nat) (reports : List Report) (s : Session) : Prop where
  sent : s.sent = min total (greatest reports)
  complete : Completes total reports → s.status = .validating
  partway : ¬ Completes total reports → s.status = .uploading

namespace Tallies

lemma reported (h : Tallies total reports s) (hn : ¬ Completes total reports) (r : Report) :
    Tallies total (reports ++ [r]) (s.reported r.loaded total r.now) := by
  have hsent := h.sent
  have hcomplete : total ≤ max s.sent (min r.loaded total) ↔ total ≤ r.loaded := by
    rcases Nat.eq_zero_or_pos total with h0 | h0
    · omega
    · have hlt := greatest_lt hn h0
      omega
  constructor
  · rw [greatest_snoc]
    change max s.sent (min r.loaded total) = _
    omega
  · intro hc
    have hl := (completes_snoc.mp hc).resolve_left hn
    simp only [Session.reported, if_pos (hcomplete.mpr hl)]
  · intro hc
    have hl : ¬ total ≤ r.loaded := fun hl => hc (completes_snoc.mpr (.inr hl))
    simp only [Session.reported, if_neg (mt hcomplete.mp hl), h.partway hn]

lemma complete_snoc (h : Tallies total reports s) (hc : Completes total reports) (r : Report) :
    Tallies total (reports ++ [r]) s := by
  obtain ⟨_, hle⟩ := completes_iff.mp hc
  constructor
  · rw [greatest_snoc, h.sent]
    omega
  · intro _
    exact h.complete hc
  · intro hn
    exact absurd (completes_snoc.mpr (.inl hc)) hn

lemma ignores (h : Tallies total reports s) (hs : t.session = some s)
    (hc : Completes total reports) (r : Report) : t.step (r.operation total) = (t, []) := by
  have hdeaf : ¬ t.Hears (r.operation total) := by
    rw [Report.operation, Tracker.Hears, status_of_session hs, h.complete hc]
    exact Status.noConfusion
  obtain ⟨ht, he⟩ := (step_takes t (r.operation total)).of_deaf hdeaf
  exact Prod.ext ht he

lemma step (h : Tallies total reports s) (hs : t.session = some s) (r : Report) :
    ∃ s', (t.step (r.operation total)).1.session = some s' ∧
      Tallies total (reports ++ [r]) s' := by
  by_cases hc : Completes total reports
  · rw [h.ignores hs hc r]
    exact ⟨s, hs, h.complete_snoc hc r⟩
  · have hp : t.step (r.operation total) = _ :=
      progress_reported hs (h.partway hc) r.loaded total r.now
    rw [hp]
    exact ⟨_, rfl, h.reported hc r⟩

end Tallies

lemma hear_tallies (name : String) (size now total : Nat) (reports : List Report) :
    ∃ s, ((Tracker.started name size now).hear total reports).1.session = some s ∧
      Tallies total reports s := by
  induction reports using List.reverseRecOn with
  | nil =>
    refine ⟨_, rfl, ?_⟩
    constructor
    · simp [greatest]
    · rintro ⟨r, hr, _⟩
      cases hr
    · intro _
      rfl
  | append_singleton reports r ih =>
    obtain ⟨s, hs, h⟩ := ih
    rw [Tracker.hear, List.map_append, List.map_singleton, run_snoc]
    exact h.step hs r

lemma hear_ignored (name : String) (size now : Nat) (hc : Completes total reports)
    (more : List Report) :
    (Tracker.started name size now).hear total (reports ++ more) =
      (Tracker.started name size now).hear total reports := by
  induction more using List.reverseRecOn with
  | nil => rw [List.append_nil]
  | append_singleton more r ih =>
    obtain ⟨q, hq, hl⟩ := hc
    obtain ⟨s, hs, h⟩ := hear_tallies name size now total (reports ++ more)
    have hr := h.ignores hs ⟨q, List.mem_append_left _ hq, hl⟩ r
    rw [← ih, ← List.append_assoc, Tracker.hear, List.map_append, List.map_singleton, run_snoc]
    rw [Tracker.hear] at hr
    rw [hr, List.append_nil]
    rfl

lemma heard_standing (name : String) (size now total : Nat) (reports : List Report) :
    ((Tracker.started name size now).hear total reports).1.sent? =
        some (min total (greatest reports)) ∧
      ((Tracker.started name size now).hear total reports).1.status =
        if Completes total reports then .validating else .uploading := by
  obtain ⟨s, hs, h⟩ := hear_tallies name size now total reports
  rw [Tracker.sent?, status_of_session hs, hs, ← h.sent]
  refine ⟨rfl, ?_⟩
  split_ifs with hc
  · exact h.complete hc
  · exact h.partway hc

/-- What a tracker comes to that hears some reports on one total: neither their order nor their
repetition matters, and nothing does after the first that tells that all is sent. -/
structure Commutes (t : Tracker) (total : Nat) (reports : List Report) : Prop where
  sent : (t.hear total reports).1.sent? = some (min total (greatest reports))
  validating : (t.hear total reports).1.status = .validating ↔
    reports ≠ [] ∧ total ≤ greatest reports
  uploading : ¬ (reports ≠ [] ∧ total ≤ greatest reports) →
    (t.hear total reports).1.status = .uploading
  alike : ∀ others, SameCounts reports others →
    (t.hear total others).1.sent? = (t.hear total reports).1.sent? ∧
    (t.hear total others).1.status = (t.hear total reports).1.status
  ignored : ∀ front r back, reports = front ++ r :: back → total ≤ r.loaded →
    t.hear total reports = t.hear total (front ++ [r])

theorem reports_commute (name : String) (size now total : Nat) (reports : List Report) :
    Commutes (.started name size now) total reports := by
  obtain ⟨hsent, hstatus⟩ := heard_standing name size now total reports
  constructor
  · exact hsent
  · rw [hstatus, ← completes_iff]
    split_ifs with hc
    · exact iff_of_true rfl hc
    · exact iff_of_false not_false hc
  · intro hn
    rw [hstatus, if_neg (mt completes_iff.mp hn)]
  · intro others ho
    obtain ⟨hsent', hstatus'⟩ := heard_standing name size now total others
    have hc : Completes total others ↔ Completes total reports := ⟨ho.symm.completes, ho.completes⟩
    rw [hsent, hsent', hstatus, hstatus', le_antisymm ho.greatest_le ho.symm.greatest_le]
    simp only [hc, and_self]
  · rintro front r back rfl hl
    have hc : Completes total (front ++ [r]) := completes_snoc.mpr (.inr hl)
    have hb := hear_ignored name size now hc back
    rwa [List.append_assoc] at hb

def halfThenAll : List Report :=
  [⟨2, 5⟩, ⟨9, 0⟩, ⟨3, 7⟩]

def allThenHalf : List Report :=
  [⟨9, 6⟩, ⟨2, 8⟩, ⟨3, 2⟩, ⟨2, 1⟩]

theorem reports_commute_halfThenAll :
    ((Tracker.started "fw.bin" 4 0).hear 4 halfThenAll).1.sent? = some 4 ∧
    ((Tracker.started "fw.bin" 4 0).hear 4 [⟨2, 5⟩]).1.status = .uploading ∧
    ((Tracker.started "fw.bin" 4 0).hear 4 allThenHalf).1.status = .validating ∧
    (Tracker.started "fw.bin" 4 0).hear 4 halfThenAll =
      (Tracker.started "fw.bin" 4 0).hear 4 [⟨2, 5⟩, ⟨9, 0⟩] := by
  have h := reports_commute "fw.bin" 4 0 4 halfThenAll
  have hsame : SameCounts halfThenAll allThenHalf := by
    intro n
    simp only [halfThenAll, allThenHalf, List.map_cons, List.map_nil, List.mem_cons,
      List.not_mem_nil, or_false]
    omega
  refine ⟨h.sent, ?_, ?_, ?_⟩
  · exact (reports_commute "fw.bin" 4 0 4 [⟨2, 5⟩]).uploading (by decide)
  · rw [(h.alike _ hsame).2]
    exact h.validating.mpr (by decide)
  · exact h.ignored [⟨2, 5⟩] ⟨9, 0⟩ [⟨3, 7⟩] rfl (by decide)

end FirmwareUpdate.Upload
