import FirmwareUpdate.Json.Record
import FirmwareUpdate.Proofs.Json.Skip

/-! Records of a longer text. A record ends with its closing bracket, so what is read of it never
depends on what follows. -/

namespace FirmwareUpdate.Json

variable {cs r q : List Char} {v : Value}

lemma word_append {es : List Char} {w : Value}
    (h : (readIdentifier es cs).map (fun (r : List Char) => (w, r)) = .ok (v, r)) (q : List Char) :
    (readIdentifier es (cs ++ q)).map (fun (r : List Char) => (w, r)) = .ok (v, r ++ q) := by
  obtain ⟨r, hr, heq⟩ := of_map_ok h
  cases heq
  rw [readIdentifier_append hr]
  rfl

lemma text_append {α : Type} {g : List Char → α} {a : α}
    (h : (readText cs).map (fun (p : List Char × List Char) => (g p.1, p.2)) = .ok (a, r))
    (q : List Char) :
    (readText (cs ++ q)).map (fun (p : List Char × List Char) => (g p.1, p.2)) =
      .ok (a, r ++ q) := by
  obtain ⟨⟨t, r⟩, hr, heq⟩ := of_map_ok h
  cases heq
  rw [readText_append hr]
  rfl

lemma readFlag_append (h : readFlag cs = .ok (v, r)) (q : List Char) :
    readFlag (cs ++ q) = .ok (v, r ++ q) := by
  unfold readFlag at h
  split at h
  · exact word_append h q
  · exact word_append h q
  · cases h

lemma readOptionalText_append (h : readOptionalText cs = .ok (v, r)) (q : List Char) :
    readOptionalText (cs ++ q) = .ok (v, r ++ q) := by
  unfold readOptionalText at h
  split at h
  · exact word_append h q
  · exact text_append (g := fun t => Value.text (some (String.ofList t))) h q
  · cases h

lemma readOptionalSize_append (h : readOptionalSize cs = .ok (v, r)) (hq : Parted r q) :
    readOptionalSize (cs ++ q) = .ok (v, r ++ q) := by
  unfold readOptionalSize at h
  split at h
  · exact word_append h q
  · split at h
    all_goals cases h
  · cases h
  · rename_i c cs hn hminus
    split_ifs at h with hd
    split at h
    · rename_i n r hnumber
      cases h
      have hnumber := readNumber_append hnumber hq
      rw [List.cons_append] at hnumber ⊢
      rw [readOptionalSize, if_pos hd, hnumber]
      · exact hn
      · exact hminus
    · cases h

lemma Kind.read_append {k : Kind} (h : k.read cs = .ok (v, r)) (hq : Parted r q) :
    k.read (cs ++ q) = .ok (v, r ++ q) := by
  have hne : ∃ c s, skipSpace cs = c :: s := by
    cases hs : skipSpace cs with
    | nil =>
      simp only [Kind.read, hs] at h
      cases k
      all_goals cases h
    | cons c s => exact ⟨c, s, rfl⟩
  obtain ⟨c, s, hs⟩ := hne
  have happend : skipSpace (cs ++ q) = skipSpace cs ++ q := by
    rw [skipSpace_append hs, hs, List.cons_append]
  cases k with
  | flag =>
    simp only [Kind.read, happend]
    exact readFlag_append h q
  | text =>
    simp only [Kind.read, happend]
    exact readOptionalText_append h q
  | size =>
    simp only [Kind.read, happend]
    exact readOptionalSize_append h hq

variable {first : Bool} {key : Option (List Char)}

lemma readKey_append (h : readKey first cs = .ok (key, r)) (q : List Char) :
    readKey first (cs ++ q) = .ok (key, r ++ q) := by
  unfold readKey at h
  dsimp only at h
  split at h
  · cases h
  · rename_i s hs
    cases h
    rw [readKey, skipSpace_append hs]
    rfl
  · rename_i c s hbrace hs
    rw [readKey, skipSpace_append hs]
    split_ifs at h with hfirst hquote hcomma
    · simpa [hbrace, hfirst, hquote] using text_append (g := some) h q
    · split at h
      · cases h
      · rename_i s' hs'
        simpa [hfirst, hcomma, skipSpace_append hs'] using text_append (g := some) h q
      · cases h
      · cases h

lemma readMembers_eq (s : Record) (first : Bool) (seen : Members) (cs : List Char) :
    readMembers s first seen cs = (readKey first cs).bind fun
      | (none, r) =>
          match s.fields.find? fun (f : Field) => !f.optional && !seen.has f.name with
          | some f => .error (behind r (.missing f.name))
          | none => .ok (seen, r)
      | (some key, r) =>
          match s.field? (String.ofList key) with
          | none => (readColon r).bind fun r => (skipValue r).bind fun r =>
              readMembers s false seen r
          | some f =>
              if seen.has f.name then .error (behind (afterObject r) (.duplicate f.name))
              else (readColon r).bind fun r => (f.kind.read r).bind fun (v, r) =>
                readMembers s false ((f.name, v) :: seen) r := by
  rw [readMembers]
  split
  · rename_i hk
    rw [hk]
    rfl
  · rename_i hk
    rw [hk]
    rfl
  · rename_i key r hk
    rw [hk, Except.bind]
    dsimp only
    cases s.field? (String.ofList key) with
    | none =>
      dsimp only
      split
      · rename_i hc
        rw [hc, Except.bind]
      · rename_i hc
        rw [hc, Except.bind]
        split
        · rename_i hv
          rw [hv, Except.bind]
        · rename_i hv
          rw [hv, Except.bind]
    | some f =>
      dsimp only
      split_ifs with hseen
      · rfl
      · split
        · rename_i hc
          rw [hc, Except.bind]
        · rename_i hc
          rw [hc, Except.bind]
          split
          · rename_i hv
            rw [hv, Except.bind]
          · rename_i hv
            rw [hv, Except.bind]

inductive ReadsMembers (s : Record) :
    (first : Bool) → Members → List Char → Members → List Char → Prop
  | closed {first : Bool} {seen : Members} {cs r : List Char}
      (hk : readKey first cs = .ok (none, r))
      (hall : s.fields.find? (fun (f : Field) => !f.optional && !seen.has f.name) = none) :
      ReadsMembers s first seen cs seen r
  | unknown {first : Bool} {seen ms : Members} {key cs r₁ r₂ r₃ r : List Char}
      (hk : readKey first cs = .ok (some key, r₁)) (hf : s.field? (String.ofList key) = none)
      (hc : readColon r₁ = .ok r₂) (hv : skipValue r₂ = .ok r₃)
      (h : ReadsMembers s false seen r₃ ms r) : ReadsMembers s first seen cs ms r
  | known {first : Bool} {seen ms : Members} {key cs r₁ r₂ r₃ r : List Char} {f : Field}
      {v : Value} (hk : readKey first cs = .ok (some key, r₁))
      (hf : s.field? (String.ofList key) = some f) (hnew : seen.has f.name = false)
      (hc : readColon r₁ = .ok r₂) (hv : f.kind.read r₂ = .ok (v, r₃))
      (h : ReadsMembers s false ((f.name, v) :: seen) r₃ ms r) : ReadsMembers s first seen cs ms r

variable {s : Record} {seen ms : Members}

lemma readsMembers_of_ok (h : readMembers s first seen cs = .ok (ms, r)) :
    ReadsMembers s first seen cs ms r := by
  induction hn : cs.length using Nat.strong_induction_on generalizing first seen cs with
  | _ n ih =>
    subst hn
    rw [readMembers_eq] at h
    obtain ⟨⟨key?, r₁⟩, hk, h⟩ := of_bind_ok h
    have hlk := readKey_length hk
    cases key? with
    | none =>
      dsimp only at h
      split at h
      · cases h
      · rename_i hall
        cases h
        exact .closed hk hall
    | some key =>
      dsimp only at h
      split at h
      · rename_i hf
        obtain ⟨r₂, hc, h⟩ := of_bind_ok h
        obtain ⟨r₃, hv, h⟩ := of_bind_ok h
        have hlc := readColon_length hc
        have hlv := skipValue_length hv
        exact .unknown hk hf hc hv (ih _ (by omega) h rfl)
      · rename_i f hf
        split_ifs at h with hnew
        obtain ⟨r₂, hc, h⟩ := of_bind_ok h
        obtain ⟨⟨v, r₃⟩, hv, h⟩ := of_bind_ok h
        have hlc := readColon_length hc
        have hlv := Kind.read_length hv
        exact .known hk hf (Bool.eq_false_iff.mpr hnew) hc hv (ih _ (by omega) h rfl)

lemma ReadsMembers.readMembers (h : ReadsMembers s first seen cs ms r) :
    readMembers s first seen cs = .ok (ms, r) := by
  induction h with
  | closed hk hall => simp [readMembers_eq, hk, hall, Except.bind]
  | unknown hk hf hc hv _ ih =>
    rw [readMembers_eq, hk]
    simp only [Except.bind, hf, hc, hv, ih]
  | known hk hf hnew hc hv _ ih =>
    rw [readMembers_eq, hk]
    simp [Except.bind, hf, hnew, hc, hv, ih]

lemma readMembers_iff :
    readMembers s first seen cs = .ok (ms, r) ↔ ReadsMembers s first seen cs ms r :=
  ⟨readsMembers_of_ok, ReadsMembers.readMembers⟩

lemma ReadsMembers.ne_nil (h : ReadsMembers s first seen cs ms r) : cs ≠ [] := by
  rintro rfl
  have hk : ∃ key r, readKey first [] = .ok (key, r) := by
    cases h with
    | closed hk => exact ⟨_, _, hk⟩
    | unknown hk => exact ⟨_, _, hk⟩
    | known hk => exact ⟨_, _, hk⟩
  obtain ⟨key, r, hk⟩ := hk
  cases hk

lemma ReadsMembers.append (h : ReadsMembers s first seen cs ms r) (q : List Char) :
    ReadsMembers s first seen (cs ++ q) ms (r ++ q) := by
  induction h with
  | closed hk hall => exact .closed (readKey_append hk q) hall
  | unknown hk hf hc hv h ih =>
    have hv := skipValue_append hv (parted_of_ne_nil (q := q) h.ne_nil)
    exact .unknown (readKey_append hk q) hf (readColon_append hc q) hv ih
  | known hk hf hnew hc hv h ih =>
    have hv := Kind.read_append hv (parted_of_ne_nil (q := q) h.ne_nil)
    exact .known (readKey_append hk q) hf hnew (readColon_append hc q) hv ih

lemma closeList_append (h : closeList cs = .ok r) (q : List Char) :
    closeList (cs ++ q) = .ok (r ++ q) := by
  unfold closeList at h
  split at h
  · cases h
  · rename_i s hs
    cases h
    rw [closeList, skipSpace_append hs]
    rfl
  · split at h
    all_goals cases h
  · cases h

lemma readElement_append {more : Bool} (h : readElement first cs = .ok (more, r)) (q : List Char) :
    readElement first (cs ++ q) = .ok (more, r ++ q) := by
  unfold readElement at h
  split at h
  · cases h
  · rename_i s hs
    cases h
    rw [readElement, skipSpace_append hs]
    rfl
  · rename_i c s hbracket hs
    rw [readElement, skipSpace_append hs]
    split_ifs at h with hfirst hcomma
    · cases h
      simp [hfirst]
    · split at h
      · cases h
      · cases h
      · rename_i hnil hclose
        cases h
        cases hs' : skipSpace s with
        | nil => exact absurd hs' hnil
        | cons c' s' =>
          have hc' : c' ≠ ']' := by
            rintro rfl
            exact hclose _ hs'
          simp [hfirst, hcomma, skipSpace_append hs', hc']

variable {i : ℕ} {f : Field} {fs : List Field}

lemma readElements_ne_nil (h : readElements s i fs cs = .ok (ms, r)) : cs ≠ [] := by
  rintro rfl
  cases fs with
  | nil => cases h
  | cons f fs => cases h

lemma readElements_append (h : readElements s i fs cs = .ok (ms, r)) (q : List Char) :
    readElements s i fs (cs ++ q) = .ok (ms, r ++ q) := by
  induction fs generalizing i cs ms with
  | nil =>
    obtain ⟨r, hr, heq⟩ := of_map_ok h
    cases heq
    rw [readElements, closeList_append hr]
    rfl
  | cons f fs ih =>
    rw [readElements] at h ⊢
    split at h
    · cases h
    · rename_i r' he
      rw [readElement_append he]
      dsimp only
      split at h
      · cases h
      · cases h
        rfl
    · rename_i r₁ he
      rw [readElement_append he]
      dsimp only
      split at h
      · cases h
      · rename_i v r₂ hv
        obtain ⟨⟨ms, r⟩, hr, heq⟩ := of_map_ok h
        cases heq
        rw [Kind.read_append hv (parted_of_ne_nil (readElements_ne_nil hr))]
        dsimp only
        rw [ih hr]
        rfl

lemma Record.readFront_append (h : s.readFront cs = .ok (ms, r)) (q : List Char) :
    s.readFront (cs ++ q) = .ok (ms, r ++ q) := by
  unfold readFront at h
  split at h
  · cases h
  · rename_i cs' hs
    rw [readFront, skipSpace_append hs]
    exact readElements_append h q
  · rename_i cs' hs
    rw [readFront, skipSpace_append hs]
    exact readMembers_iff.mpr ((readMembers_iff.mp h).append q)
  · cases h

lemma Record.read_followed (h : s.read cs = .ok ms) (hq : skipSpace q ≠ []) :
    s.read (cs ++ q) = .error (ahead (skipSpace q) .trailingCharacters) := by
  unfold read at h
  split at h
  · cases h
  · rename_i ms' r hfront
    split at h
    · rename_i hr
      cases hs : skipSpace q with
      | nil => exact absurd hs hq
      | cons c q' => simp only [read, readFront_append hfront, skipSpace_append_of_nil hr, hs]
    · cases h

end FirmwareUpdate.Json
