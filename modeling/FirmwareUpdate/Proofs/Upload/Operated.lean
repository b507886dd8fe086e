import FirmwareUpdate.Proofs.Upload.Ending
import FirmwareUpdate.Proofs.Upload.Grammar

/-! What an upload does with its tracker. Whatever happens to it, it shows what a new tracker gives
back for some operations, in their order and nothing else; once it is over, the tracker is not
active any more. -/

namespace FirmwareUpdate.Upload

variable {α β : Type} {t : Tracker} {P : Tracker → α → Prop} {Q : Tracker → β → Prop}
  {x : Activity Entry α} {f : α → Activity Entry β}

/-- The activity shows what some operations give back, and what it comes to goes with the tracker
that they lead to. -/
def Operates (t : Tracker) (P : Tracker → α → Prop) (x : Activity Entry α) : Prop :=
  x.Leaves fun log r => ∃ os, log.filterMap Entry.event? = (t.run os).2 ∧
    ∀ a, r = some a → P (t.run os).1 a

namespace Operates

lemma silent (h : Activity.Keeps (fun e => e.event? = none) x) :
    Operates t (fun u _ => u = t) x := by
  intro c
  refine ⟨[], List.filterMap_eq_nil_iff.mpr (h c), ?_⟩
  intro a _
  rfl

lemma pure {a : α} (h : P t a) : Operates t P (Pure.pure a) := by
  refine Activity.Leaves.pure ⟨[], rfl, ?_⟩
  intro b hb
  obtain rfl := Option.some.inj hb
  exact h

lemma bind (hx : Operates t P x) (hf : ∀ u a, P u a → Operates u Q (f a)) :
    Operates t Q (x >>= f) := by
  refine Activity.Leaves.bind hx ?_ ?_
  · rintro k ⟨os, he, _⟩
    exact ⟨os, he, by simp⟩
  · rintro k a ⟨os, he, hp⟩
    refine Activity.Leaves.mono (hf _ a (hp a rfl)) ?_
    rintro l r ⟨more, hl, hq⟩
    refine ⟨os ++ more, ?_, ?_⟩
    · rw [List.filterMap_append, he, hl, run_append]
    · intro b hb
      rw [run_append]
      exact hq b hb

lemma silent_bind (h : Activity.Keeps (fun e => e.event? = none) x)
    (hf : ∀ a, Operates t Q (f a)) : Operates t Q (x >>= f) := by
  refine bind (silent h) ?_
  rintro u a rfl
  exact hf a

lemma ite {b : Prop} [Decidable b] {y : Activity Entry α} (hx : Operates t P x)
    (hy : Operates t P y) : Operates t P (if b then x else y) := by
  by_cases h : b
  · rwa [if_pos h]
  · rwa [if_neg h]

lemma showAll (os : List Tracker.Operation) :
    Operates t (fun u _ => u = (t.run os).1) (showAll (t.run os).2) := by
  intro c
  rw [showAll_prompt]
  refine ⟨os, ?_, fun _ _ => rfl⟩
  simp [Run.entries, List.filterMap_map, Function.comp_def, Entry.event?]

lemma step_bind {f : Unit → Activity Entry β} {o : Tracker.Operation}
    (hf : Operates (t.step o).1 Q (f ())) :
    Operates t Q (Upload.showAll (t.step o).2 >>= f) := by
  rw [← run_singleton] at hf ⊢
  refine bind (showAll [o]) ?_
  rintro u _ rfl
  exact hf

end Operates

lemma conclude_operated (n now : Nat) (t : Tracker) (ending : Ending) :
    ∃ os, conclude n now t ending = t.run os ∧ (t.run os).1.status.isActive = false := by
  cases ending with
  | answered answer =>
    refine ⟨_, rfl, ?_⟩
    rw [run_append, run_singleton]
    exact (step_takes _ (.answer answer)).inactive rfl
  | broken reason =>
    refine ⟨[.fail reason], (run_singleton t (.fail reason)).symm, ?_⟩
    rw [run_singleton]
    exact (step_takes t (.fail reason)).inactive rfl
  | aborted =>
    refine ⟨[.cancel], (run_singleton t .cancel).symm, ?_⟩
    rw [run_singleton]
    exact (step_takes t .cancel).inactive rfl

def Over (u : Tracker) (_ : Result) : Prop :=
  u.status.isActive = false

lemma abandon_operates (t : Tracker) : Operates t Over (abandon t) :=
  .step_bind (o := .cancel) (.pure ((step_takes t .cancel).inactive rfl))

lemma settle_operates (n : Nat) (ending : Ending) (p : Progress) :
    Operates p.tracker Over (settle n ending p) := by
  obtain ⟨os, hc, ho⟩ :=
    conclude_operated n p.instant (drain n p.instant p.tracker p.pending).1 ending
  have hd := run_append p.tracker (p.pending.map fun count => .progress count n p.instant) os
  simp only [drain] at hc ho
  have hshow := Operates.showAll (t := p.tracker)
    (p.pending.map (fun count => .progress count n p.instant) ++ os)
  rw [hd] at hshow
  simp only [settle, drain, hc]
  refine .bind hshow ?_
  rintro u _ rfl
  exact .pure ho

lemma showPending_operates (n now : Nat) (t : Tracker) (counts : List Nat) :
    Operates t (fun u r => u = r.1) (showPending n now t counts) := by
  induction counts generalizing t with
  | nil => exact .silent_bind (.await 0) fun _ => .pure rfl
  | cons count counts ih =>
    refine .silent_bind (.await 0) fun _ => .ite ?_ (.pure rfl)
    exact .step_bind (o := .progress count n now) (ih _)

lemma proceed_operates (n : Nat) (ending : Ending) (steps : List Step) (p : Progress) :
    Operates p.tracker Over (proceed n ending steps p) := by
  induction steps generalizing p with
  | nil => exact .silent_bind (.write rfl) fun _ => settle_operates n ending p
  | cons step steps ih =>
    cases step with
    | send count =>
      have hp : (p.send count).tracker = p.tracker := by simp [Progress.send, apply_ite]
      exact hp ▸ ih (p.send count)
    | close => exact ih { p with closed := true }
    | yield =>
      refine .bind (showPending_operates _ _ _ _) ?_
      rintro u r rfl
      exact .ite (ih { p with tracker := r.1, pending := [] }) (abandon_operates r.1)
    | sleep span =>
      cases span with
      | zero => exact ih p
      | succ span =>
        refine .bind (showPending_operates _ _ _ _) ?_
        rintro u r rfl
        refine .ite ?_ (abandon_operates r.1)
        refine .silent_bind (.await _) fun _ => .ite ?_ (abandon_operates r.1)
        exact ih { p with tracker := r.1, pending := [], elapsed := p.elapsed + (span + 1) }
    | stall =>
      refine .bind (showPending_operates _ _ _ _) ?_
      rintro u r rfl
      refine .ite ?_ (abandon_operates r.1)
      exact .silent_bind .awaitCancellation fun _ => abandon_operates r.1

theorem drive_operates (image : Image) (transfer : Transfer) :
    Operates .new Over (drive image transfer) := by
  refine .step_bind (o := .start image.name image.data.size 0) ?_
  refine .silent_bind (.await 0) fun _ => .ite ?_ (abandon_operates _)
  exact .silent_bind (.write rfl) fun _ => proceed_operates _ _ _ _

end FirmwareUpdate.Upload
