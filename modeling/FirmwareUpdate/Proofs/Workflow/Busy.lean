import FirmwareUpdate.Proofs.Workflow.Session

/-! The busy marks of an action. They stand around all that is done with the user's consent, and are
there if the user gives it; so whenever a task of a session begins, nobody is told to wait. -/

namespace FirmwareUpdate.Workflow

namespace Entry

def mark? : Entry → Option (Action × Bool)
  | .busy b on => some (b, on)
  | _ => none

def isWork : Entry → Bool
  | .call .info | .render (.info _) => false
  | .call _ | .render _ => true
  | _ => false

def isAsking : Entry → Bool
  | .dialog _ _ | .call .info => true
  | _ => false

end Entry

def Accepted (log : List Entry) : Prop :=
  ∃ q, .dialog q true ∈ log

/-- The marks of an action stand around its work; the second is the last of all. -/
structure Bracketed (b : Action) (r : Run Entry Result) : Prop where
  accepted : Accepted r.entries → ∃ before work,
    r.entries =
      before ++ .busy b true :: work ++ (if r.ending.isSome then [.busy b false] else []) ∧
    (∀ e ∈ before, e.mark? = none ∧ e.isWork = false) ∧
    ∀ e ∈ work, e.mark? = none ∧ e.isAsking = false
  unaccepted : ¬ Accepted r.entries → ∀ e ∈ r.entries, e.mark? = none ∧ e.isWork = false

def Entry.IsPreliminary (e : Entry) : Prop :=
  e.mark? = none ∧ e.isWork = false ∧ ∀ q, e ≠ .dialog q true

lemma Bracketed.idle {r : Run Entry Result} (h : ∀ e ∈ r.entries, e.IsPreliminary) (b : Action) :
    Bracketed b r where
  accepted := by
    rintro ⟨q, hq⟩
    exact absurd rfl ((h _ hq).2.2 q)
  unaccepted _ e he := ⟨(h e he).1, (h e he).2.1⟩

lemma Bracketed.after {b : Action} {r : Run Entry Result} (h : Bracketed b r)
    {log : List (Stamped Entry)} (hl : ∀ e ∈ log, e.entry.IsPreliminary) :
    Bracketed b (r.after log) := by
  have hk : ∀ e ∈ log.map (·.entry), e.IsPreliminary := List.forall_mem_map.mpr hl
  have hidle : ∀ e ∈ log.map (·.entry), e.mark? = none ∧ e.isWork = false :=
    fun e he => ⟨(hk e he).1, (hk e he).2.1⟩
  constructor
  · rintro ⟨q, hq⟩
    rw [Run.entries_after, List.mem_append] at hq
    rcases hq with hq | hq
    · exact absurd rfl ((hk _ hq).2.2 q)
    · obtain ⟨before, work, he, hb, hw⟩ := h.accepted ⟨q, hq⟩
      refine ⟨log.map (·.entry) ++ before, work, ?_, List.forall_mem_append.mpr ⟨hidle, hb⟩, hw⟩
      rw [Run.entries_after, he, Run.ending_after]
      simp only [List.append_assoc, List.cons_append]
  · intro hn
    rw [Run.entries_after] at hn ⊢
    refine List.forall_mem_append.mpr ⟨hidle, h.unaccepted ?_⟩
    rintro ⟨q, hq⟩
    exact hn ⟨q, List.mem_append_right _ hq⟩

lemma Bracketed.later {b : Action} {r : Run Entry Result} (h : Bracketed b r) (t : Nat) :
    Bracketed b (r.later t) where
  accepted := by simpa using h.accepted
  unaccepted := by simpa using h.unaccepted

variable {s : Setting} {x : Activity Entry Result}

lemma closing_entries (b : Action) (ending : Option (Nat × Result)) :
    (closing b ending).map (·.entry) = if ending.isSome then [.busy b false] else [] := by
  cases ending <;> rfl

lemma confirmed_bracketed (hx : Activity.Keeps (fun e => e.mark? = none ∧ e.isAsking = false) x)
    (a : Confirmation.Action) (b : Action) (c : Cancellation) :
    Bracketed b (confirmed s a (busy b x) c) := by
  cases ha : (s.reply 0).accepts with
  | false =>
    apply Bracketed.idle
    intro e he
    rw [confirmed_declined ha] at he
    obtain rfl := List.mem_singleton.mp he
    exact ⟨rfl, rfl, by simp⟩
  | true =>
    have hd : Entry.dialog a.request true ∈ (confirmed s a (busy b x) c).entries := by
      simp [confirmed_accepted ha, Run.entries, opening]
    refine ⟨fun _ => ?_, fun hn => absurd ⟨_, hd⟩ hn⟩
    refine ⟨[.dialog a.request true], (x (c.after (s.reply 0).delay 2)).entries, ?_, ?_, hx _⟩
    · rw [confirmed_accepted ha]
      simp [Run.entries, opening, closing_entries, Function.comp_def]
    · intro e he
      obtain rfl := List.mem_singleton.mp he
      exact ⟨rfl, rfl⟩

lemma update_bracketed (w : Workflow) (s : Setting) (path : String) (c : Cancellation) :
    Bracketed .update (update w s path c) := by
  rcases update_cases w s path with ⟨v, hs⟩ | ⟨_, n, e, hr⟩
  · rw [update_validated hs]
    apply confirmed_bracketed
    apply uploadAndRestart_keeps
    · exact fun _ _ => ⟨rfl, rfl⟩
    · exact fun _ => ⟨rfl, rfl⟩
    · exact ⟨rfl, rfl⟩
    · intro e
      cases e <;> exact ⟨rfl, rfl⟩
  · apply Bracketed.idle
    intro e he
    rw [hr] at he
    obtain rfl := List.mem_singleton.mp he
    exact ⟨rfl, rfl, by simp⟩

lemma rollback_bracketed (w : Workflow) (s : Setting) (c : Cancellation) :
    Bracketed .rollback (rollback w s c) := by
  have hcall : (Entry.call .info).IsPreliminary := ⟨rfl, rfl, by simp⟩
  have hinfo : ∀ info, (Entry.render (.info info)).IsPreliminary := fun _ => ⟨rfl, rfl, by simp⟩
  have hnote : ∀ n, (Entry.notify n).IsPreliminary := fun _ => ⟨rfl, rfl, by simp⟩
  cases hi : s.device.info 0 with
  | none =>
    rw [rollback_silent hi]
    exact Bracketed.idle (by simpa [Run.entries] using hcall) _
  | some a =>
    obtain ⟨d, r⟩ := a
    cases r with
    | error causes =>
      rw [rollback_unanswered hi]
      exact Bracketed.idle (by simpa [Run.entries] using ⟨hcall, hnote _⟩) _
    | ok info =>
      cases hr : info.canRollback with
      | false =>
        rw [rollback_unavailable hi hr]
        exact Bracketed.idle (by simpa [Run.entries] using ⟨hcall, hinfo _, hnote _⟩) _
      | true =>
        rw [rollback_available hi hr]
        refine Bracketed.after (Bracketed.later (confirmed_bracketed ?_ _ _ _) d)
          (by simpa using ⟨hcall, hinfo _⟩)
        apply rollbackAndRestart_keeps
        · exact fun _ _ => ⟨rfl, rfl⟩
        · exact fun _ => ⟨rfl, rfl⟩
        · exact ⟨rfl, rfl⟩
        · exact ⟨rfl, rfl⟩

def lit (on : Bool) : Entry → Bool
  | .busy _ on' => on'
  | _ => on

def isBusy (log : List Entry) : Bool :=
  log.foldl lit false

lemma foldl_lit_unmarked {log : List Entry} (h : ∀ e ∈ log, e.mark? = none) (on : Bool) :
    log.foldl lit on = on := by
  induction log generalizing on with
  | nil => rfl
  | cons e log ih =>
    have he : lit on e = on := by
      have hm := h e List.mem_cons_self
      cases e with
      | busy b on' => cases hm
      | _ => rfl
    rw [List.foldl_cons, he]
    exact ih (fun d hd => h d (List.mem_cons_of_mem e hd)) on

lemma Bracketed.leaves_idle {b : Action} {r : Run Entry Result} (h : Bracketed b r)
    (hr : r.ending ≠ none) : r.entries.foldl lit false = false := by
  by_cases ha : Accepted r.entries
  · obtain ⟨before, work, he, _, _⟩ := h.accepted ha
    rw [he, if_pos (Option.isSome_iff_ne_none.mpr hr), List.foldl_append]
    rfl
  · exact foldl_lit_unmarked (fun e he => (h.unaccepted ha e he).1) false

lemma perform_leaves_idle (w : Workflow) (s : Setting) (task : Task) (c : Cancellation)
    (h : ((perform w s task).run c).ending ≠ none) :
    ((perform w s task).run c).entries.foldl lit false = false := by
  cases task with
  | info =>
    rw [perform_info]
    have hinfo : Activity.Keeps (fun e => e.mark? = none) (loadInfo s) := by
      apply loadInfo_keeps
      · rfl
      · exact fun _ => rfl
      · exact fun _ => rfl
    exact foldl_lit_unmarked (hinfo c) false
  | update path =>
    rw [perform_update] at h ⊢
    exact (update_bracketed w s path c).leaves_idle fun he => h (by simp [he])
  | rollback =>
    rw [perform_rollback] at h ⊢
    exact (rollback_bracketed w s c).leaves_idle fun he => h (by simp [he])

theorem busy_around_work (w : Workflow) (s : Setting) :
    (∀ path c, Bracketed .update ((update w s path).run c)) ∧
    (∀ c, Bracketed .rollback ((rollback w s).run c)) ∧
    ∀ tasks rs r more, session w s tasks = rs ++ r :: more →
      isBusy (rs.flatMap Run.entries) = false ∧
      (r.ending ≠ none → isBusy ((rs ++ [r]).flatMap Run.entries) = false) := by
  have hnext : ∀ log s task c, isBusy log = false → ((perform w s task).run c).ending ≠ none →
      isBusy (log ++ ((perform w s task).run c).entries) = false := by
    intro log s task c hl he
    rw [isBusy, List.foldl_append, ← isBusy, hl]
    exact perform_leaves_idle w s task c he
  refine ⟨update_bracketed w s, rollback_bracketed w s, ?_⟩
  intro tasks rs r more h
  have hidle : isBusy (rs.flatMap Run.entries) = false :=
    session_keeps (P := fun log => isBusy log = false) rfl hnext h
  refine ⟨hidle, ?_⟩
  intro he
  obtain ⟨_, s', task, c, rfl⟩ := session_split h
  rw [List.flatMap_append, List.flatMap_singleton]
  exact hnext _ s' task c hidle he

end FirmwareUpdate.Workflow
