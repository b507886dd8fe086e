import FirmwareUpdate.Http.Chunk
import FirmwareUpdate.Proofs.Upload.Commutation
import FirmwareUpdate.Proofs.Upload.Reports

/-! An image that is sent in slices. Whoever takes them gets the image, and whoever listens is told
after every slice how much has been taken; a tracker that hears this shows one report a slice and
waits for the verdict after the last. -/

namespace FirmwareUpdate.Http

variable {data : ByteArray} {c : ByteArray} {cs : List ByteArray}

def joined (cs : List ByteArray) : ByteArray :=
  cs.foldr (· ++ ·) ByteArray.empty

def total (cs : List ByteArray) : ℕ :=
  (cs.map ByteArray.size).sum

@[simp] lemma total_nil : total [] = 0 := rfl

@[simp] lemma total_cons (c : ByteArray) (cs : List ByteArray) :
    total (c :: cs) = c.size + total cs := rfl

lemma size_joined (cs : List ByteArray) : (joined cs).size = total cs := by
  induction cs with
  | nil => rfl
  | cons c cs ih => rw [joined, List.foldr_cons, ByteArray.size_append, ← joined, ih, total_cons]

lemma extract_beyond (data : ByteArray) (start : ℕ) {stop : ℕ} (h : data.size ≤ stop) :
    data.extract start stop = data.extract start data.size := by
  apply ByteArray.ext
  have hstop : data.data.size ≤ stop := h
  rw [ByteArray.data_extract, ByteArray.data_extract]
  change _ = data.data.extract start data.data.size
  grind

lemma joined_chunksFrom (data : ByteArray) (start : ℕ) :
    joined (chunksFrom data start) = data.extract start data.size := by
  fun_induction chunksFrom data start with
  | case1 start h ih =>
    rw [joined, List.foldr_cons, ← joined, ih, ByteArray.extract_append_extract,
      Nat.min_eq_left (Nat.le_add_right start chunkSize)]
    exact extract_beyond data start (le_max_right _ _)
  | case2 start h =>
    symm
    apply ByteArray.extract_eq_empty_iff.mpr
    omega

lemma chunksFrom_size {start : ℕ} (hc : c ∈ chunksFrom data start) :
    0 < c.size ∧ c.size ≤ chunkSize := by
  fun_induction chunksFrom data start with
  | case1 start h ih =>
    rcases List.mem_cons.mp hc with rfl | hc
    · simp only [ByteArray.size_extract, chunkSize]
      omega
    · exact ih hc
  | case2 start h => cases hc

lemma chunksFrom_full {start : ℕ} (hc : c ∈ (chunksFrom data start).dropLast) :
    c.size = chunkSize := by
  fun_induction chunksFrom data start with
  | case1 start h ih =>
    by_cases hnext : start + chunkSize < data.size
    · have hne : chunksFrom data (start + chunkSize) ≠ [] := by
        rw [chunksFrom, if_pos hnext]
        exact List.cons_ne_nil _ _
      rw [List.dropLast_cons_of_ne_nil hne] at hc
      rcases List.mem_cons.mp hc with rfl | hc
      · simp only [ByteArray.size_extract]
        omega
      · exact ih hc
    · rw [chunksFrom, if_neg hnext] at hc
      cases hc
  | case2 start h => cases hc

structure Slices (data : ByteArray) (cs : List ByteArray) : Prop where
  joined : joined cs = data
  nonempty : ∀ c ∈ cs, 0 < c.size
  full : ∀ c ∈ cs.dropLast, c.size = 16384
  short : ∀ c ∈ cs, c.size ≤ 16384

lemma chunks_slices (data : ByteArray) : Slices data (chunks data) where
  joined := by rw [chunks, joined_chunksFrom, ByteArray.extract_zero_size]
  nonempty c hc := (chunksFrom_size hc).1
  full c hc := chunksFrom_full hc
  short c hc := (chunksFrom_size hc).2

lemma Slices.total (h : Slices data cs) : total cs = data.size := by
  rw [← size_joined, h.joined]

def totals (cs : List ByteArray) : List ℕ :=
  (List.range cs.length).map fun i => total (cs.take (i + 1))

@[simp] lemma totals_nil : totals [] = [] := rfl

lemma totals_cons (c : ByteArray) (cs : List ByteArray) :
    totals (c :: cs) = c.size :: (totals cs).map (c.size + ·) := by
  simp [totals, List.range_succ_eq_map, total, Function.comp_def]

lemma totals_length (cs : List ByteArray) : (totals cs).length = cs.length := by
  simp [totals]

lemma totals_getLast (h : cs ≠ []) : (totals cs).getLast? = some (total cs) := by
  have hlength : cs.length ≠ 0 := by simpa using h
  have hlast : cs.length - 1 + 1 = cs.length := by omega
  rw [totals, List.getLast?_map, List.getLast?_range, if_neg hlength, Option.map_some, hlast,
    List.take_length]

lemma totals_increasing (h : ∀ c ∈ cs, 0 < c.size) :
    (totals cs).Pairwise (· < ·) ∧ ∀ n ∈ totals cs, 0 < n ∧ n ≤ total cs := by
  induction cs with
  | nil => simp
  | cons c cs ih =>
    have hc := h c List.mem_cons_self
    obtain ⟨hp, hn⟩ := ih fun d hd => h d (List.mem_cons_of_mem c hd)
    rw [totals_cons]
    constructor
    · refine List.pairwise_cons.mpr ⟨?_, ?_⟩
      · intro n hm
        obtain ⟨m, hmem, rfl⟩ := List.mem_map.mp hm
        have hpos := (hn m hmem).1
        omega
      · exact hp.map _ fun m n hlt => Nat.add_lt_add_left hlt _
    · intro n hm
      rw [total_cons]
      rcases List.mem_cons.mp hm with rfl | hm
      · omega
      · obtain ⟨m, hmem, rfl⟩ := List.mem_map.mp hm
        have hle := (hn m hmem).2
        omega

namespace Outgoing

variable {s : Outgoing} {ms : List Move}

lemma take_nil (h : s.rest = []) : s.take = (none, s) := by
  simp [take, h]

lemma take_cons (h : s.rest = c :: cs) :
    s.take = (some c, report { s with rest := cs, sent := s.sent + c.size }) := by
  simp [take, h]

@[simp] lemma report_rest (s : Outgoing) : s.report.rest = s.rest := by
  unfold report
  split <;> rfl

lemma run_taken (s : Outgoing) (ms : List Move) : (s.run ms).1 = s.rest.take (ms.count .take) := by
  induction ms generalizing s with
  | nil => simp [run]
  | cons m ms ih =>
    cases m with
    | take =>
      rw [List.count_cons_self]
      cases hs : s.rest with
      | nil => simp [run, step, take_nil hs, ih, hs]
      | cons c cs => simp [run, step, take_cons hs, ih]
    | leave => simp [run, step, ih]

lemma run_reported (hs : s.listened = true) (hm : .leave ∉ ms) :
    (s.run ms).2.reported = s.reported ++ (totals (s.run ms).1).map (s.sent + ·) := by
  induction ms generalizing s with
  | nil => simp [run]
  | cons m ms ih =>
    rw [List.mem_cons, not_or] at hm
    obtain ⟨hleave, hm⟩ := hm
    cases m with
    | leave => exact absurd rfl hleave
    | take =>
      cases hr : s.rest with
      | nil => simpa [run, step, take_nil hr] using ih hs hm
      | cons c cs =>
        have hreport : report { s with rest := cs, sent := s.sent + c.size } =
            ⟨cs, s.sent + c.size, true, s.reported ++ [s.sent + c.size]⟩ := by
          simp [report, hs]
        simp [run, step, take_cons hr, hreport, ih, hm, totals_cons, Nat.add_assoc,
          Function.comp_def]

end Outgoing

lemma counts_eq (data : ByteArray) : counts data = totals (chunks data) := by
  have hm : .leave ∉ List.replicate (chunks data).length Outgoing.Move.take := by simp
  rw [counts, Outgoing.run_reported rfl hm, Outgoing.run_taken]
  simp [Outgoing.new]

lemma mem_front_iff {n : ℕ} {front back : List ℕ} (hasc : (front ++ back).Pairwise (· < ·))
    (hlast : (front ++ back).getLast? = some n) : n ∈ front ↔ back = [] := by
  constructor
  · intro hf
    by_contra hne
    rw [List.getLast?_append_of_ne_nil _ hne] at hlast
    exact lt_irrefl n ((List.pairwise_append.mp hasc).2.2 n hf n (List.mem_of_getLast? hlast))
  · rintro rfl
    rw [List.append_nil] at hlast
    exact List.mem_of_getLast? hlast

end FirmwareUpdate.Http

namespace FirmwareUpdate.Upload

variable {n : ℕ} {reports : List Report}

lemma greatest_snoc_ascending {r : Report}
    (h : ((reports ++ [r]).map Report.loaded).Pairwise (· < ·)) :
    greatest (reports ++ [r]) = r.loaded := by
  rw [List.map_append, List.pairwise_append] at h
  have hle : greatest reports ≤ r.loaded := by
    apply greatest_le
    intro q hq
    exact (h.2.2 _ (List.mem_map_of_mem hq) _ (List.mem_singleton_self _)).le
  rw [greatest_snoc, max_eq_right hle]

lemma hear_ascending (name : String) (size now : ℕ)
    (hasc : (reports.map Report.loaded).Pairwise (· < ·)) (hle : ∀ r ∈ reports, r.loaded ≤ n) :
    unsampled ((Tracker.started name size now).hear n reports).2 =
      reports.map (fun r => progressAt n r.loaded) ++
        if n ∈ reports.map Report.loaded then [.status .validating] else [] := by
  induction reports using List.reverseRecOn with
  | nil => simp [Tracker.hear, Tracker.run, unsampled]
  | append_singleton reports r ih =>
    have hgreatest := greatest_snoc_ascending hasc
    rw [List.map_append, List.pairwise_append] at hasc
    obtain ⟨hfront, -, hlt⟩ := hasc
    have hr : r.loaded ≤ n := hle r (by simp)
    have hbefore : ∀ q ∈ reports, q.loaded < n := by
      intro q hq
      exact (hlt _ (List.mem_map_of_mem hq) _ (List.mem_singleton_self _)).trans_le hr
    have hn : ¬ Completes n reports := by
      rintro ⟨q, hq, hl⟩
      exact absurd hl (hbefore q hq).not_ge
    have hmem : n ∉ reports.map Report.loaded := by
      intro hm
      obtain ⟨q, hq, rfl⟩ := List.mem_map.mp hm
      exact absurd rfl (hbefore q hq).ne
    obtain ⟨s, hs, h⟩ := hear_tallies name size now n reports
    have hsent : (s.reported r.loaded n r.now).sent = r.loaded := by
      rw [(h.reported hn r).sent, hgreatest, min_eq_right hr]
    have hstep : ((Tracker.started name size now).hear n reports).1.step (r.operation n) = _ :=
      progress_reported hs (h.partway hn) r.loaded n r.now
    have hrun : ((Tracker.started name size now).hear n (reports ++ [r])).2 =
        ((Tracker.started name size now).hear n reports).2 ++ s.report r.loaded n r.now := by
      rw [Tracker.hear, List.map_append, List.map_singleton, run_snoc]
      exact congrArg (_ ++ ·) (congrArg Prod.snd hstep)
    rw [hrun, unsampled_append, ih hfront fun q hq => hle q (List.mem_append_left _ hq),
      unsampled_report, hsent, if_neg hmem]
    have hlast : n ∈ (reports ++ [r]).map Report.loaded ↔ n ≤ r.loaded := by
      rw [List.map_append, List.mem_append, or_iff_right hmem, List.map_singleton,
        List.mem_singleton]
      omega
    rw [if_congr hlast rfl rfl]
    simp

end FirmwareUpdate.Upload

namespace FirmwareUpdate.Http

open Upload

structure Told (taken : List ByteArray) (counts : List ℕ) : Prop where
  number : counts.length = taken.length
  handed : ∀ i (h : i < counts.length), counts[i] = (joined (taken.take (i + 1))).size
  increasing : counts.Pairwise (· < ·)

lemma totals_told {taken : List ByteArray} (h : ∀ c ∈ taken, 0 < c.size) :
    Told taken (totals taken) where
  number := totals_length taken
  handed i hi := by simp [totals, size_joined]
  increasing := (totals_increasing h).1

lemma Outgoing.run_told (data : ByteArray) {ms : List Outgoing.Move} (hm : .leave ∉ ms) :
    Told ((Outgoing.new data).run ms).1 ((Outgoing.new data).run ms).2.reported := by
  have hreported := run_reported (s := Outgoing.new data) rfl hm
  have hnew : (Outgoing.new data).reported = [] ∧ (Outgoing.new data).sent = 0 := ⟨rfl, rfl⟩
  rw [hnew.1, hnew.2, List.nil_append] at hreported
  simp only [Nat.zero_add, List.map_id'] at hreported
  rw [hreported]
  apply totals_told
  intro c hc
  rw [run_taken] at hc
  exact (chunks_slices data).nonempty c (List.mem_of_mem_take hc)

theorem image_streamed (data : ByteArray) :
    Slices data (chunks data) ∧ (chunks data = [] ↔ data.size = 0) ∧
    (∀ ms, ((Outgoing.new data).run ms).1 = (chunks data).take (ms.count .take)) ∧
    (∀ ms, .leave ∉ ms →
      Told ((Outgoing.new data).run ms).1 ((Outgoing.new data).run ms).2.reported) ∧
    Told (chunks data) (counts data) ∧
    (counts data).getLast? = (if data.size = 0 then none else some data.size) ∧
    ∀ name size now (reports : List Report), reports.map Report.loaded = counts data →
      ∀ front back, reports = front ++ back →
        unsampled ((Tracker.started name size now).hear data.size front).2 =
          front.map (fun r => progressAt data.size r.loaded) ++
            if front ≠ [] ∧ back = [] then [.status .validating] else [] := by
  have hslices := chunks_slices data
  have htold : Told (chunks data) (counts data) := by
    rw [counts_eq]
    exact totals_told hslices.nonempty
  have hempty : chunks data = [] ↔ data.size = 0 := by
    rw [← hslices.total]
    cases hc : chunks data with
    | nil => simp
    | cons c cs =>
      have hpos := hslices.nonempty c (hc ▸ List.mem_cons_self)
      simp only [List.cons_ne_nil, total_cons, false_iff]
      omega
  refine ⟨hslices, hempty, fun ms => Outgoing.run_taken _ ms, fun ms => Outgoing.run_told data,
    htold, ?_, ?_⟩
  · split_ifs with h0
    · rw [counts_eq, hempty.mpr h0]
      rfl
    · rw [counts_eq, totals_getLast (mt hempty.mp h0), hslices.total]
  · intro name size now reports hreports front back hsplit
    subst hsplit
    have hasc := htold.increasing
    have hle : ∀ r ∈ front, r.loaded ≤ data.size := by
      intro r hr
      rw [← hslices.total]
      apply ((totals_increasing hslices.nonempty).2 _ _).2
      rw [← counts_eq, ← hreports]
      exact List.mem_map_of_mem (List.mem_append_left _ hr)
    rw [← hreports, List.map_append] at hasc
    rw [hear_ascending name size now (List.pairwise_append.mp hasc).1 hle]
    congr 1
    apply if_congr _ rfl rfl
    rw [counts_eq] at hreports
    by_cases h0 : chunks data = []
    · rw [h0, totals_nil, List.map_eq_nil_iff, List.append_eq_nil_iff] at hreports
      simp [hreports.1]
    · have hlast := totals_getLast h0
      rw [← hreports, hslices.total, List.map_append] at hlast
      rw [mem_front_iff hasc hlast, List.map_eq_nil_iff, and_iff_right_of_imp]
      rintro rfl rfl
      rw [List.append_nil, List.map_nil] at hreports
      exact h0 (List.length_eq_zero_iff.mp (by rw [← totals_length, ← hreports]; rfl))

def twoSlices : ByteArray := ⟨Array.replicate 20000 7⟩

lemma twoSlices_counts : counts twoSlices = [16384, 20000] := by
  have hsize : twoSlices.size = 20000 := by
    rw [ByteArray.size, twoSlices, Array.size_replicate]
  have hchunks : chunks twoSlices =
      [twoSlices.extract 0 16384, twoSlices.extract 16384 32768] := by
    rw [chunks, chunksFrom, hsize, if_pos (by decide), chunksFrom, hsize, if_pos (by decide),
      chunksFrom, hsize, if_neg (by decide)]
    rfl
  rw [counts_eq, hchunks]
  simp [totals, total, ByteArray.size_extract, hsize, List.range_succ]

theorem image_streamed_twoSlices :
    Told ((Outgoing.new twoSlices).run [.take]).1 ((Outgoing.new twoSlices).run [.take]).2.reported ∧
    unsampled ((Tracker.started "a.bin" 20000 0).hear twoSlices.size
        [⟨16384, 5⟩, ⟨20000, 3⟩]).2 =
      [progressAt twoSlices.size 16384, progressAt twoSlices.size 20000, .status .validating] := by
  obtain ⟨-, -, -, htold, -, -, hshown⟩ := image_streamed twoSlices
  refine ⟨htold [.take] (by decide), ?_⟩
  exact hshown "a.bin" 20000 0 [⟨16384, 5⟩, ⟨20000, 3⟩] twoSlices_counts.symm _ [] rfl

end FirmwareUpdate.Http
