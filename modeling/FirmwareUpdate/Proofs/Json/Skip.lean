import FirmwareUpdate.Json.Skip
import FirmwareUpdate.Proofs.Json.Number
import FirmwareUpdate.Proofs.Json.Text

/-! Values that are not needed, in a longer text. The two loops over the open brackets are one
relation, with a rule for each way they go on. -/

namespace FirmwareUpdate.Json

variable {cs r q : List Char} {b : Bracket} {nest : List Bracket} {inside : Bool}

lemma readIdentifier_append {es : List Char} (h : readIdentifier es cs = .ok r) (q : List Char) :
    readIdentifier es (cs ++ q) = .ok (r ++ q) := by
  induction es generalizing cs with
  | nil =>
    cases h
    rfl
  | cons e es ih =>
    cases cs with
    | nil => cases h
    | cons c cs =>
      simp only [readIdentifier, List.cons_append] at h ⊢
      split_ifs at h with hc
      rw [if_pos hc]
      exact ih h

lemma skipScalar_append (h : skipScalar cs = .ok r) (hq : Parted r q) :
    skipScalar (cs ++ q) = .ok (r ++ q) := by
  unfold skipScalar at h
  split at h
  · cases h
  · exact readIdentifier_append h q
  · exact readIdentifier_append h q
  · exact readIdentifier_append h q
  · exact skipNumber_append h hq
  · exact skipText_append h q
  · rename_i c cs hn ht hf hminus hquote
    split_ifs at h with hd
    rw [List.cons_append, skipScalar, if_pos hd]
    · exact skipNumber_append h hq
    · exact hn
    · exact ht
    · exact hf
    · exact hminus
    · exact hquote

lemma readColon_append (h : readColon cs = .ok r) (q : List Char) :
    readColon (cs ++ q) = .ok (r ++ q) := by
  unfold readColon at h
  split at h
  · cases h
  · rename_i s hs
    cases h
    rw [readColon, skipSpace_append hs]
    rfl
  · cases h

lemma skipKey_append (h : skipKey cs = .ok r) (q : List Char) :
    skipKey (cs ++ q) = .ok (r ++ q) := by
  unfold skipKey at h
  split at h
  · cases h
  · rename_i s hs
    split at h
    · cases h
    · rename_i s' ht
      rw [skipKey, skipSpace_append hs]
      simp only [skipText_append ht]
      exact readColon_append h q
  · cases h

namespace Bracket

lemma enter_append (h : b.enter cs = .ok r) (q : List Char) : b.enter (cs ++ q) = .ok (r ++ q) := by
  cases b with
  | list =>
    cases h
    rfl
  | object => exact skipKey_append h q

lemma opened_append {done : Bool} (h : b.opened cs = .ok (done, r)) (q : List Char) :
    b.opened (cs ++ q) = .ok (done, r ++ q) := by
  unfold opened at h
  split at h
  · cases h
  · rename_i c s hs
    rw [opened, skipSpace_append hs]
    dsimp only
    split_ifs at h ⊢
    all_goals
      cases h
      rfl

lemma close_ne_comma (b : Bracket) : b.close ≠ ',' := by
  cases b <;> decide

end Bracket

def skipFrom : (inside : Bool) → List Bracket → List Char → Except Fault (List Char)
  | true, nest, cs => skipInside nest cs
  | false, nest, cs => skipAfter nest cs

inductive Skips : (inside : Bool) → List Bracket → List Char → List Char → Prop
  | empty {nest : List Bracket} {b : Bracket} {c : Char} {cs s s' r : List Char}
      (hs : skipSpace cs = c :: s) (hb : Bracket.opening? c = some b)
      (ho : b.opened s = .ok (true, s')) (h : Skips false nest s' r) : Skips true nest cs r
  | nested {nest : List Bracket} {b : Bracket} {c : Char} {cs s s' s'' r : List Char}
      (hs : skipSpace cs = c :: s) (hb : Bracket.opening? c = some b)
      (ho : b.opened s = .ok (false, s')) (he : b.enter s' = .ok s'')
      (h : Skips true (b :: nest) s'' r) : Skips true nest cs r
  | scalar {nest : List Bracket} {c : Char} {cs s s' r : List Char}
      (hs : skipSpace cs = c :: s) (hb : Bracket.opening? c = none)
      (hv : skipScalar (c :: s) = .ok s') (h : Skips false nest s' r) : Skips true nest cs r
  | done {cs : List Char} : Skips false [] cs cs
  | next {nest : List Bracket} {b : Bracket} {cs s s' r : List Char}
      (hs : skipSpace cs = ',' :: s) (he : b.enter s = .ok s')
      (h : Skips true (b :: nest) s' r) : Skips false (b :: nest) cs r
  | close {nest : List Bracket} {b : Bracket} {cs s r : List Char}
      (hs : skipSpace cs = b.close :: s) (h : Skips false nest s r) :
      Skips false (b :: nest) cs r

lemma Skips.skipFrom (h : Skips inside nest cs r) : skipFrom inside nest cs = .ok r := by
  induction h with
  | empty hs hb ho _ ih =>
    rw [← ih]
    simp only [Json.skipFrom]
    rw [skipInside]
    grind
  | nested hs hb ho he _ ih =>
    rw [← ih]
    simp only [Json.skipFrom]
    rw [skipInside]
    grind
  | scalar hs hb hv _ ih =>
    rw [← ih]
    simp only [Json.skipFrom]
    rw [skipInside]
    grind
  | done => simp only [Json.skipFrom, skipAfter]
  | next hs he _ ih =>
    rw [← ih]
    simp only [Json.skipFrom]
    rw [skipAfter]
    grind
  | @close nest b cs s r hs _ ih =>
    have hne := b.close_ne_comma
    rw [← ih]
    simp only [Json.skipFrom]
    rw [skipAfter]
    grind

lemma skips_of_skipFrom (h : skipFrom inside nest cs = .ok r) : Skips inside nest cs r := by
  induction hn : cs.length using Nat.strong_induction_on generalizing inside nest cs with
  | _ n ih =>
    subst hn
    have hl := skipSpace_length cs
    cases inside with
    | true =>
      rw [skipFrom, skipInside] at h
      split at h
      · cases h
      · rename_i c s hs
        rw [hs, List.length_cons] at hl
        split at h
        · rename_i b hb
          split at h
          · cases h
          · rename_i s' ho
            have hlo := Bracket.opened_length ho
            exact .empty hs hb ho (ih _ (by omega) h rfl)
          · rename_i s' ho
            have hlo := Bracket.opened_length ho
            split at h
            · cases h
            · rename_i s'' he
              have hle := Bracket.enter_length he
              exact .nested hs hb ho he (ih _ (by omega) h rfl)
        · rename_i hb
          split at h
          · cases h
          · rename_i s' hv
            have hlv := skipScalar_length hv
            rw [List.length_cons] at hlv
            exact .scalar hs hb hv (ih _ (by omega) h rfl)
    | false =>
      cases nest with
      | nil =>
        rw [skipFrom, skipAfter] at h
        cases h
        exact .done
      | cons b nest =>
        rw [skipFrom, skipAfter] at h
        split at h
        · cases h
        · rename_i c s hs
          rw [hs, List.length_cons] at hl
          split_ifs at h with hc hclose
          · subst hc
            split at h
            · cases h
            · rename_i s' he
              have hle := Bracket.enter_length he
              exact .next hs he (ih _ (by omega) h rfl)
          · subst hclose
            exact .close hs (ih _ (by omega) h rfl)

lemma skips_iff : skipFrom inside nest cs = .ok r ↔ Skips inside nest cs r :=
  ⟨skips_of_skipFrom, Skips.skipFrom⟩

lemma Skips.length_le (h : Skips inside nest cs r) : r.length ≤ cs.length := by
  have h := h.skipFrom
  cases inside with
  | true => exact (skip_length _ _ _ _ (Nat.le_refl _)).1 h
  | false => exact (skip_length _ _ _ _ (Nat.le_refl _)).2 h

lemma Skips.append (h : Skips inside nest cs r) (hq : Parted r q) :
    Skips inside nest (cs ++ q) (r ++ q) := by
  induction h with
  | empty hs hb ho _ ih =>
    exact .empty (skipSpace_append hs q) hb (Bracket.opened_append ho q) (ih hq)
  | nested hs hb ho he _ ih =>
    exact .nested (skipSpace_append hs q) hb (Bracket.opened_append ho q)
      (Bracket.enter_append he q) (ih hq)
  | scalar hs hb hv h ih =>
    have hv := skipScalar_append hv (hq.back h.length_le)
    exact .scalar (skipSpace_append hs q) hb hv (ih hq)
  | done => exact .done
  | next hs he _ ih => exact .next (skipSpace_append hs q) (Bracket.enter_append he q) (ih hq)
  | close hs _ ih => exact .close (skipSpace_append hs q) (ih hq)

lemma skipValue_append (h : skipValue cs = .ok r) (hq : Parted r q) :
    skipValue (cs ++ q) = .ok (r ++ q) := by
  have h : Skips true [] cs r := skips_iff.mp h
  exact skips_iff.mpr (h.append hq)

end FirmwareUpdate.Json
