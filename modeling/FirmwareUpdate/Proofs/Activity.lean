import FirmwareUpdate.Activity
import Mathlib.Tactic

/-! Runs of joined activities. Activities form a lawful monad, so that a long one can be regrouped
at any of its joints; what each of its parts keeps out of the log stays out of the whole. -/

namespace FirmwareUpdate

namespace Cancellation

@[simp] lemma after_zero (c : Cancellation) : c.after 0 0 = c := by
  cases c with
  | mk instant entry => cases instant <;> cases entry <;> rfl

@[simp] lemma after_after (c : Cancellation) (t u m n : Nat) :
    (c.after t m).after u n = c.after (t + u) (m + n) := by
  cases c with
  | mk instant entry => cases instant <;> cases entry <;> simp [after, Nat.sub_sub]

@[simp] lemma never_after (t n : Nat) : never.after t n = never := rfl

@[simp] lemma never_within (span : Nat) : never.within span = none := rfl

lemma isDue_after {c : Cancellation} (h : c.isDue = true) (t n : Nat) :
    (c.after t n).isDue = true := by
  cases c with
  | mk instant entry =>
    simp only [isDue, Bool.or_eq_true, beq_iff_eq] at h
    rcases h with rfl | rfl
    · simp [isDue, after]
    · simp [isDue, after]

lemma not_due_of_after {c : Cancellation} {t n : Nat} (h : (c.after t n).isDue = false) :
    c.isDue = false := by
  cases hd : c.isDue with
  | true =>
    rw [isDue_after hd] at h
    cases h
  | false => rfl

lemma within_zero (c : Cancellation) : c.within 0 = if c.isDue then some 0 else none := by
  cases hd : c.isDue with
  | true => simp [within, hd]
  | false =>
    cases hi : c.instant with
    | none => simp [within, hd, hi]
    | some t =>
      have ht : t ≠ 0 := by
        rintro rfl
        simp [isDue, hi] at hd
      simp [within, hd, hi, ht]

lemma within_eq_none {c : Cancellation} {span : Nat} (h : (c.after span 0).isDue = false) :
    c.within span = none := by
  have hd := not_due_of_after h
  cases hi : c.instant with
  | none => simp [within, hd, hi]
  | some t =>
    have ht : t - span ≠ 0 := by
      intro ht
      simp [isDue, after, hi, ht] at h
    have hlt : ¬ t ≤ span := by omega
    simp [within, hd, hi, hlt]

lemma within_add (c : Cancellation) (span more : Nat) :
    c.within (span + more) =
      (c.within span).or (((c.after span 0).within more).map (span + ·)) := by
  cases hd : c.isDue with
  | true => simp [within, hd]
  | false =>
    cases c with
    | mk instant entry =>
      cases instant with
      | none => simp_all [within, after, isDue]
      | some t =>
        by_cases ht : t ≤ span
        · have hle : t ≤ span + more := by omega
          simp [within, hd, ht, hle]
        · have hne : t - span ≠ 0 := by omega
          have hda : (after ⟨some t, entry⟩ span 0).isDue = false := by
            simp_all [isDue, after]
          have hi : (after ⟨some t, entry⟩ span 0).instant = some (t - span) := rfl
          have hle : t ≤ span + more ↔ t - span ≤ more := by omega
          have hadd : span + (t - span) = t := by omega
          simp only [within, hd, hda, hi, hle, if_neg ht]
          split_ifs <;> simp_all

end Cancellation

variable {ε δ α β γ : Type}

namespace Stamped

@[simp] lemma later_zero : later 0 = (id : Stamped ε → Stamped ε) := by
  funext e
  simp [later]

@[simp] lemma later_later (t u : Nat) (e : Stamped ε) : (e.later t).later u = e.later (u + t) := by
  simp [later, Nat.add_assoc]

@[simp] lemma later_entry (t : Nat) (e : Stamped ε) : (e.later t).entry = e.entry := rfl

@[simp] lemma map_entry (f : ε → δ) (e : Stamped ε) : (e.map f).entry = f e.entry := rfl

end Stamped

def seen (view : ε → Option δ) (log : List (Stamped ε)) : List δ :=
  log.filterMap fun e => view e.entry

@[simp] lemma seen_nil (view : ε → Option δ) : seen view [] = [] := rfl

@[simp] lemma seen_cons (view : ε → Option δ) (e : Stamped ε) (log : List (Stamped ε)) :
    seen view (e :: log) = (view e.entry).toList ++ seen view log := by
  cases h : view e.entry with
  | none => simp [seen, h]
  | some d => simp [seen, h]

@[simp] lemma seen_append (view : ε → Option δ) (k l : List (Stamped ε)) :
    seen view (k ++ l) = seen view k ++ seen view l :=
  List.filterMap_append

@[simp] lemma seen_later (view : ε → Option δ) (t : Nat) (log : List (Stamped ε)) :
    seen view (log.map (Stamped.later t)) = seen view log := by
  simp [seen, List.filterMap_map, Function.comp_def]

lemma seen_map {ζ : Type} (view : δ → Option ζ) (f : ε → δ) (log : List (Stamped ε)) :
    seen view (log.map (Stamped.map f)) = seen (fun e => view (f e)) log := by
  simp [seen, List.filterMap_map, Function.comp_def]

lemma seen_eq_nil {view : ε → Option δ} {log : List (Stamped ε)} :
    seen view log = [] ↔ ∀ e ∈ log, view e.entry = none :=
  List.filterMap_eq_nil_iff

lemma mem_seen {view : ε → Option δ} {log : List (Stamped ε)} {d : δ} :
    d ∈ seen view log ↔ ∃ e ∈ log, view e.entry = some d :=
  List.mem_filterMap

namespace Run

lemma seen_log (view : ε → Option δ) (r : Run ε α) :
    seen view r.log = r.entries.filterMap view := by
  simp [seen, entries, List.filterMap_map]

@[ext] lemma ext {r s : Run ε α} (hl : r.log = s.log) (he : r.ending = s.ending) : r = s := by
  cases r
  cases s
  cases hl
  cases he
  rfl

@[simp] lemma later_zero (r : Run ε α) : r.later 0 = r := by
  apply ext
  · simp [later]
  · simp [later]

@[simp] lemma after_nil (r : Run ε α) : r.after [] = r := rfl

@[simp] lemma later_later (r : Run ε α) (t u : Nat) : (r.later t).later u = r.later (u + t) := by
  apply ext
  · simp [later, Function.comp_def]
  · simp [later, Function.comp_def, Nat.add_assoc]

@[simp] lemma after_after (r : Run ε α) (k l : List (Stamped ε)) :
    (r.after k).after l = r.after (l ++ k) := by
  simp [after]

@[simp] lemma after_later (r : Run ε α) (l : List (Stamped ε)) (t : Nat) :
    (r.after l).later t = (r.later t).after (l.map (Stamped.later t)) := by
  simp [after, later]

@[simp] lemma log_later (r : Run ε α) (t : Nat) : (r.later t).log = r.log.map (Stamped.later t) :=
  rfl

@[simp] lemma log_after (r : Run ε α) (l : List (Stamped ε)) : (r.after l).log = l ++ r.log := rfl

@[simp] lemma ending_later (r : Run ε α) (t : Nat) :
    (r.later t).ending = r.ending.map fun (u, a) => (t + u, a) := rfl

@[simp] lemma ending_after (r : Run ε α) (l : List (Stamped ε)) : (r.after l).ending = r.ending :=
  rfl

@[simp] lemma entries_later (r : Run ε α) (t : Nat) : (r.later t).entries = r.entries := by
  simp [entries, Function.comp_def]

@[simp] lemma entries_after (r : Run ε α) (l : List (Stamped ε)) :
    (r.after l).entries = l.map (·.entry) ++ r.entries := by
  simp [entries]

end Run

namespace Activity

lemma bind_of_stops {x : Activity ε α} (f : α → Activity ε β) {c : Cancellation}
    (h : (x c).ending = none) : (x >>= f) c = ⟨(x c).log, none⟩ := by
  change bind x f c = _
  simp only [bind, h]

lemma bind_of_ends {x : Activity ε α} (f : α → Activity ε β) {c : Cancellation} {t : Nat} {a : α}
    (h : (x c).ending = some (t, a)) :
    (x >>= f) c = ((f a (c.after t (x c).log.length)).later t).after (x c).log := by
  change bind x f c = _
  simp only [bind, h]

lemma map_pure (x : Activity ε α) : id <$> x = x := by
  change x >>= (fun a => pure a) = x
  funext c
  cases h : (x c).ending with
  | none =>
    rw [bind_of_stops _ h, ← h]
  | some e =>
    obtain ⟨t, a⟩ := e
    rw [bind_of_ends _ h]
    apply Run.ext
    · simp [pure, done]
    · simp [pure, done, h]

lemma done_bind (a : α) (f : α → Activity ε β) : pure a >>= f = f a := by
  funext c
  rw [bind_of_ends f (x := pure a) rfl]
  simp [pure, done]

lemma bind_bind (x : Activity ε α) (f : α → Activity ε β) (g : β → Activity ε γ) :
    x >>= f >>= g = x >>= fun a => f a >>= g := by
  funext c
  cases hx : (x c).ending with
  | none =>
    rw [bind_of_stops _ hx, bind_of_stops g (by rw [bind_of_stops f hx]), bind_of_stops f hx]
  | some e =>
    obtain ⟨t, a⟩ := e
    have hr := bind_of_ends f hx
    rw [bind_of_ends _ hx]
    cases hf : (f a (c.after t (x c).log.length)).ending with
    | none =>
      rw [bind_of_stops g (by simp [hr, hf]), bind_of_stops g hf, hr]
      apply Run.ext <;> simp
    | some e =>
      obtain ⟨u, b⟩ := e
      rw [bind_of_ends g (t := t + u) (a := b) (by simp [hr, hf]), bind_of_ends g hf, hr]
      simp

instance : LawfulMonad (Activity ε) :=
  LawfulMonad.mk' (Activity ε) map_pure done_bind bind_bind

@[simp] lemma pure_run (a : α) (c : Cancellation) :
    (pure a : Activity ε α) c = ⟨[], some (0, a)⟩ := rfl

lemma write_bind (e : ε) (f : Unit → Activity ε β) (c : Cancellation) :
    (write e >>= f) c = (f () (c.after 0 1)).after [⟨0, e⟩] := by
  rw [bind_of_ends f (x := write e) rfl]
  simp [write]

lemma writeAll_bind (es : List ε) (f : Unit → Activity ε β) (c : Cancellation) :
    (writeAll es >>= f) c = (f () (c.after 0 es.length)).after (es.map (⟨0, ·⟩)) := by
  induction es generalizing c with
  | nil =>
    change ((pure () : Activity ε Unit) >>= f) c = _
    rw [pure_bind]
    simp
  | cons e es ih =>
    change ((write e >>= fun _ => writeAll es) >>= f) c = _
    rw [bind_assoc, write_bind, ih]
    simp [Nat.add_comm]

lemma map_run (x : Activity ε α) (f : α → β) (c : Cancellation) :
    (x >>= fun a => pure (f a)) c =
      ⟨(x c).log, (x c).ending.map fun e => (e.1, f e.2)⟩ := by
  cases h : (x c).ending with
  | none => rw [bind_of_stops _ h, Option.map_none]
  | some e =>
    rw [bind_of_ends _ h]
    simp [Run.after, Run.later]

lemma pass_bind (span : Nat) (f : Unit → Activity ε β) (c : Cancellation) :
    (pass span >>= f) c = (f () (c.after span 0)).later span := by
  rw [bind_of_ends f (x := pass span) rfl]
  simp [pass]

lemma await_bind_cancelled {c : Cancellation} {span t : Nat} (f : Bool → Activity ε β)
    (h : c.within span = some t) : (await span >>= f) c = (f false (c.after t 0)).later t := by
  have hr : (await span : Activity ε Bool) c = ⟨[], some (t, false)⟩ := by simp [await, h]
  rw [bind_of_ends f (by rw [hr]), hr]
  simp

lemma await_bind_over {c : Cancellation} {span : Nat} (f : Bool → Activity ε β)
    (h : c.within span = none) : (await span >>= f) c = (f true (c.after span 0)).later span := by
  have hr : (await span : Activity ε Bool) c = ⟨[], some (span, true)⟩ := by simp [await, h]
  rw [bind_of_ends f (by rw [hr]), hr]
  simp

@[simp] lemma await_bind_never (span : Nat) (f : Bool → Activity ε β) :
    (await span >>= f) .never = (f true .never).later span := by
  rw [await_bind_over f (Cancellation.never_within span), Cancellation.never_after]

lemma await_bind_due {c : Cancellation} (h : c.isDue = true) (span : Nat)
    (f : Bool → Activity ε β) : (await span >>= f) c = f false c := by
  rw [await_bind_cancelled (t := 0) f (by simp [Cancellation.within, h])]
  simp

lemma goesOn_bind (f : Bool → Activity ε β) (c : Cancellation) :
    (goesOn >>= f) c = f (!c.isDue) c := by
  cases hd : c.isDue with
  | true =>
    rw [goesOn, await_bind_cancelled (t := 0) f (by simp [Cancellation.within_zero, hd])]
    simp
  | false =>
    rw [goesOn, await_bind_over f (by simp [Cancellation.within_zero, hd])]
    simp

lemma seen_bind (view : ε → Option δ) (x : Activity ε α) (f : α → Activity ε β)
    (c : Cancellation) :
    seen view ((x >>= f) c).log = seen view (x c).log ++
      (x c).ending.elim [] fun e => seen view (f e.2 (c.after e.1 (x c).log.length)).log := by
  cases h : (x c).ending with
  | none => simp [bind_of_stops f h]
  | some e => simp [bind_of_ends f h]

lemma log_prefix_bind (x : Activity ε α) (f : α → Activity ε β) (c : Cancellation) :
    (x c).log <+: ((x >>= f) c).log := by
  cases h : (x c).ending with
  | none => rw [bind_of_stops f h]
  | some e =>
    rw [bind_of_ends f h]
    exact List.prefix_append _ _

lemma seen_mapLog {ζ : Type} (view : δ → Option ζ) (g : ε → δ) (x : Activity ε α)
    (c : Cancellation) :
    seen view (x.mapLog g c).log = seen (fun e => view (g e)) (x c).log :=
  seen_map view g _

def Keeps (P : ε → Prop) (x : Activity ε α) : Prop :=
  ∀ c, ∀ e ∈ (x c).entries, P e

namespace Keeps

variable {P Q : ε → Prop} {x : Activity ε α} {f : α → Activity ε β}

lemma mono (h : Keeps P x) (hp : ∀ e, P e → Q e) : Keeps Q x :=
  fun c e he => hp e (h c e he)

lemma entries_eq_nil (h : Keeps (fun _ => False) x) (c : Cancellation) : (x c).entries = [] :=
  List.eq_nil_iff_forall_not_mem.mpr (h c)

lemma pure (a : α) : Keeps P (Pure.pure a : Activity ε α) := by
  intro c e he
  simp [Run.entries] at he

lemma bind (hx : Keeps P x) (hf : ∀ a, Keeps P (f a)) : Keeps P (x >>= f) := by
  intro c e he
  cases h : (x c).ending with
  | none =>
    rw [bind_of_stops f h] at he
    exact hx c e he
  | some u =>
    obtain ⟨t, a⟩ := u
    rw [bind_of_ends f h] at he
    simp only [Run.entries_after, Run.entries_later, List.mem_append] at he
    rcases he with he | he
    · exact hx c e he
    · exact hf a _ e he

lemma write {e : ε} (h : P e) : Keeps P (write e) := by
  intro c d hd
  obtain rfl : d = e := by simpa [Run.entries, Activity.write] using hd
  exact h

lemma writeAll {es : List ε} (h : ∀ e ∈ es, P e) : Keeps P (writeAll es) := by
  induction es with
  | nil => exact pure ()
  | cons e es ih =>
    refine bind (write (h e List.mem_cons_self)) fun _ => ih ?_
    intro d hd
    exact h d (List.mem_cons_of_mem e hd)

lemma pass (span : Nat) : Keeps P (pass span) := by
  intro c e he
  simp [Activity.pass, Run.entries] at he

lemma await (span : Nat) : Keeps P (await span) := by
  intro c e he
  cases h : c.within span <;> simp [Activity.await, h, Run.entries] at he

lemma awaitCancellation : Keeps P awaitCancellation := by
  intro c e he
  cases h : c.isDue <;> simp [Activity.awaitCancellation, h, Run.entries] at he

lemma ite {b : Prop} [Decidable b] {y : Activity ε α} (hx : Keeps P x) (hy : Keeps P y) :
    Keeps P (if b then x else y) := by
  by_cases h : b
  · rwa [if_pos h]
  · rwa [if_neg h]

lemma mapLog {g : δ → ε} {y : Activity δ α} (h : Keeps (fun d => P (g d)) y) :
    Keeps P (y.mapLog g) := by
  intro c e he
  simp only [Run.entries, Activity.mapLog, List.map_map, List.mem_map] at he
  obtain ⟨d, hd, rfl⟩ := he
  exact h c d.entry (List.mem_map_of_mem hd)

lemma seen_eq_nil {view : ε → Option δ} (h : Keeps (fun e => view e = none) x)
    (c : Cancellation) : seen view (x c).log = [] := by
  rw [FirmwareUpdate.seen_eq_nil]
  intro e he
  exact h c e.entry (List.mem_map_of_mem he)

lemma seen_bind {view : ε → Option δ} (hf : ∀ a, Keeps (fun e => view e = none) (f a))
    (c : Cancellation) : seen view ((x >>= f) c).log = seen view (x c).log := by
  rw [Activity.seen_bind]
  cases (x c).ending with
  | none => simp
  | some e => simp [(hf e.2).seen_eq_nil]

end Keeps

def Gives (Q : α → Prop) (x : Activity ε α) : Prop :=
  ∀ c t a, (x c).ending = some (t, a) → Q a

namespace Gives

variable {P : α → Prop} {Q : β → Prop} {x : Activity ε α} {f : α → Activity ε β}

lemma any : Gives (fun _ => True) x :=
  fun _ _ _ _ => trivial

lemma pure {a : α} (h : P a) : Gives P (Pure.pure a : Activity ε α) := by
  intro c t b hb
  cases hb
  exact h

lemma bind (hx : Gives P x) (hf : ∀ a, P a → Gives Q (f a)) : Gives Q (x >>= f) := by
  intro c t b hb
  cases h : (x c).ending with
  | none =>
    rw [bind_of_stops f h] at hb
    cases hb
  | some e =>
    obtain ⟨u, a⟩ := e
    rw [bind_of_ends f h, Run.ending_after, Run.ending_later, Option.map_eq_some_iff] at hb
    obtain ⟨⟨v, b⟩, hv, he⟩ := hb
    cases he
    exact hf a (hx c u a h) _ v b hv

lemma next (hf : ∀ a, Gives Q (f a)) : Gives Q (x >>= f) :=
  bind any fun a _ => hf a

lemma ite {b : Prop} [Decidable b] {y : Activity ε α} (hx : Gives P x) (hy : Gives P y) :
    Gives P (if b then x else y) := by
  by_cases h : b
  · rwa [if_pos h]
  · rwa [if_neg h]

end Gives

def Leaves (Q : List ε → Option α → Prop) (x : Activity ε α) : Prop :=
  ∀ c, Q (x c).entries ((x c).ending.map Prod.snd)

namespace Leaves

variable {P : List ε → Option α → Prop} {Q : List ε → Option β → Prop} {x : Activity ε α}
  {f : α → Activity ε β}

lemma mono {R : List ε → Option α → Prop} (h : Leaves P x) (hr : ∀ k r, P k r → R k r) :
    Leaves R x :=
  fun c => hr _ _ (h c)

lemma pure {a : α} (h : P [] (some a)) : Leaves P (Pure.pure a : Activity ε α) :=
  fun _ => h

lemma bind (hx : Leaves P x) (hn : ∀ k, P k none → Q k none)
    (hf : ∀ k a, P k (some a) → Leaves (fun l r => Q (k ++ l) r) (f a)) :
    Leaves Q (x >>= f) := by
  intro c
  cases h : (x c).ending with
  | none =>
    rw [bind_of_stops f h]
    have hp := hx c
    rw [h] at hp
    exact hn _ hp
  | some e =>
    obtain ⟨t, a⟩ := e
    have hp := hx c
    rw [h] at hp
    have hq := hf _ a hp (c.after t (x c).log.length)
    rw [bind_of_ends f h, Run.entries_after, Run.entries_later, Run.ending_after,
      Run.ending_later, Option.map_map]
    exact hq

lemma keeps_bind {R : ε → Prop} (hx : Keeps R x) (hn : ∀ k, (∀ e ∈ k, R e) → Q k none)
    (hf : ∀ a k, (∀ e ∈ k, R e) → Leaves (fun l r => Q (k ++ l) r) (f a)) :
    Leaves Q (x >>= f) :=
  bind (P := fun k _ => ∀ e ∈ k, R e) hx hn fun k a hk => hf a k hk

end Leaves

end Activity

end FirmwareUpdate
