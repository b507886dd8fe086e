import FirmwareUpdate.Proofs.Upload.Operation

/-! What the reports of a device amount to. The events that a tracker shows for some reports, its
samples left out, depend on the counts alone and not on when they come. -/

namespace FirmwareUpdate.Upload

def reached (n : Nat) (counts : List Nat) : Nat :=
  min n (counts.foldr max 0)

def levels (n : Nat) (counts : List Nat) : List Nat :=
  (List.range counts.length).map fun i => reached n (counts.take (i + 1))

def upTo (n : Nat) : List Nat → List Nat
  | [] => []
  | level :: rest => if level = n then [level] else level :: upTo n rest

def announced (n : Nat) (counts : List Nat) : List Event :=
  (upTo n (levels n counts)).map (progressAt n) ++
    if n ∈ levels n counts then [.status .validating] else []

def Event.isSample : Event → Bool
  | .sample .. => true
  | _ => false

def unsampled (es : List Event) : List Event :=
  es.filter fun e => !e.isSample

lemma unsampled_append (es fs : List Event) :
    unsampled (es ++ fs) = unsampled es ++ unsampled fs :=
  List.filter_append ..

@[simp] lemma levels_nil (n : Nat) : levels n [] = [] := rfl

lemma levels_snoc (n : Nat) (counts : List Nat) (count : Nat) :
    levels n (counts ++ [count]) = levels n counts ++ [reached n (counts ++ [count])] := by
  simp only [levels, List.length_append, List.length_singleton, List.range_succ, List.map_append,
    List.map_singleton]
  congr 1
  · apply List.map_congr_left
    intro i hi
    have hi' : i + 1 ≤ counts.length := List.mem_range.mp hi
    rw [List.take_append_of_le_length hi']
  · rw [List.take_of_length_le (by simp)]

lemma reached_snoc (n : Nat) (counts : List Nat) (count : Nat) :
    reached n (counts ++ [count]) = max (reached n counts) (min count n) := by
  have hm : (counts ++ [count]).foldr max 0 = max (counts.foldr max 0) count := by
    induction counts with
    | nil => simp
    | cons c cs ih => simp [ih, max_assoc]
  simp only [reached, hm]
  omega

@[simp] lemma upTo_singleton (n level : Nat) : upTo n [level] = [level] := by
  by_cases h : level = n <;> simp [upTo, h]

lemma upTo_append (n : Nat) (ks ls : List Nat) :
    upTo n (ks ++ ls) = if n ∈ ks then upTo n ks else ks ++ upTo n ls := by
  induction ks with
  | nil => simp
  | cons k ks ih =>
    by_cases hk : k = n
    · simp [upTo, hk]
    · simp only [List.cons_append, upTo, if_neg hk, ih, List.mem_cons, Ne.symm hk, false_or]
      split <;> rfl

lemma upTo_of_notMem {n : Nat} {ls : List Nat} (h : n ∉ ls) : upTo n ls = ls := by
  have ha := upTo_append n ls []
  simpa [upTo, h] using ha

lemma mem_levels_snoc {n : Nat} {counts : List Nat} (h : n ∉ levels n counts) (count : Nat) :
    n ∈ levels n (counts ++ [count]) ↔ n ≤ reached n (counts ++ [count]) := by
  have hle : reached n (counts ++ [count]) ≤ n := Nat.min_le_left _ _
  rw [levels_snoc, List.mem_append, List.mem_singleton, or_iff_right h]
  omega

lemma announced_of_mem {n : Nat} {counts : List Nat} (h : n ∈ levels n counts) (count : Nat) :
    n ∈ levels n (counts ++ [count]) ∧
      announced n (counts ++ [count]) = announced n counts := by
  have hs : n ∈ levels n (counts ++ [count]) := by
    rw [levels_snoc]
    exact List.mem_append_left _ h
  refine ⟨hs, ?_⟩
  rw [announced, announced, if_pos hs, if_pos h, levels_snoc, upTo_append, if_pos h]

lemma announced_of_notMem {n : Nat} {counts : List Nat} (h : n ∉ levels n counts) (count : Nat) :
    announced n (counts ++ [count]) =
      announced n counts ++ progressAt n (reached n (counts ++ [count])) ::
        if n ≤ reached n (counts ++ [count]) then [.status .validating] else [] := by
  have hl := mem_levels_snoc h count
  rw [levels_snoc] at hl
  simp only [announced, levels_snoc, hl, if_neg h, upTo_append, upTo_of_notMem h, upTo_singleton,
    List.map_append, List.map_singleton, List.append_nil, List.append_assoc,
    List.singleton_append]

structure Follows (n : Nat) (counts : List Nat) (t : Tracker) : Prop where
  session : ∃ s, t.session = some s ∧ (n ∈ levels n counts → s.status = .validating) ∧
    (n ∉ levels n counts → s.status = .uploading ∧ s.sent = reached n counts)
  outcome : t.outcome = none

lemma unsampled_report (s : Session) (count n now : Nat) :
    unsampled (s.report count n now) =
      progressAt n (s.reported count n now).sent ::
        if n ≤ (s.reported count n now).sent then [.status .validating] else [] := by
  have hsent : (s.reported count n now).sent = max s.sent (min count n) := rfl
  rw [Session.report, unsampled_append, Session.tally, hsent]
  split_ifs <;> rfl

lemma Follows.progress {n : Nat} {counts : List Nat} {t : Tracker}
    (h : Follows n counts t) (count now : Nat) :
    Follows n (counts ++ [count]) (t.progress count n now).1 ∧
      announced n (counts ++ [count]) =
        announced n counts ++ unsampled (t.progress count n now).2 := by
  obtain ⟨⟨s, hs, hcomplete, hpartway⟩, ho⟩ := h
  by_cases hm : n ∈ levels n counts
  · obtain ⟨hm', ha⟩ := announced_of_mem hm count
    have ht : t.progress count n now = (t, []) := by
      simp [Tracker.progress, hs, hcomplete hm]
    rw [ht]
    refine ⟨⟨⟨s, hs, fun _ => hcomplete hm, fun hn => absurd hm' hn⟩, ho⟩, ?_⟩
    simpa [unsampled] using ha
  · obtain ⟨hu, hr⟩ := hpartway hm
    have hl := mem_levels_snoc hm count
    have hsent : (s.reported count n now).sent = reached n (counts ++ [count]) := by
      rw [reached_snoc, ← hr]
      rfl
    have hstatus : (s.reported count n now).status =
        if n ≤ reached n (counts ++ [count]) then .validating else .uploading := by
      rw [← hsent, ← hu]
      rfl
    rw [progress_reported hs hu, announced_of_notMem hm, unsampled_report, hsent]
    refine ⟨⟨⟨_, rfl, ?_, ?_⟩, ho⟩, rfl⟩
    · intro hm'
      rw [hstatus, if_pos (hl.mp hm')]
    · intro hm'
      rw [hstatus, if_neg (mt hl.mpr hm')]
      exact ⟨rfl, hsent⟩

lemma Follows.drain {n : Nat} {counts : List Nat} {t : Tracker} (h : Follows n counts t)
    (now : Nat) (more : List Nat) :
    Follows n (counts ++ more) (drain n now t more).1 ∧
      announced n (counts ++ more) =
        announced n counts ++ unsampled (drain n now t more).2 := by
  induction more generalizing counts t with
  | nil => simpa [Upload.drain, Tracker.run, unsampled] using h
  | cons count more ih =>
    obtain ⟨hp, hes⟩ := h.progress count now
    obtain ⟨hd, hfs⟩ := ih hp
    rw [List.append_assoc, List.singleton_append] at hd hfs
    refine ⟨hd, ?_⟩
    rw [hfs, hes, List.append_assoc, ← unsampled_append]
    rfl

end FirmwareUpdate.Upload
