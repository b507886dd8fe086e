import FirmwareUpdate.CommandLine.Run
import FirmwareUpdate.Proofs.Http.Client
import FirmwareUpdate.Proofs.Settings
import FirmwareUpdate.Proofs.Workflow.Calls

/-! The course of one run of the tool. A command is carried out first; a device that is then back is
asked once more what it runs. The requests of the two are those of the whole run, and the status is
read off their results. -/

namespace FirmwareUpdate.CommandLine

open Terminal Workflow
open Http (Endpoint Body)

def first (x : Surroundings) (o : Options) (s : Settings) (c : Command) :
    Run Entry (Except Workflow.Failure Yield) :=
  (s.workflow.perform (x.setting o.yes s.client) c).run .never

def result (x : Surroundings) (o : Options) (s : Settings) (c : Command) :
    Option (Except Workflow.Failure Yield) :=
  (first x o s c).ending.map Prod.snd

def inquiries : Command → Nat
  | .update _ => 0
  | .info | .rollback => 1

def reloads : Option (Except Workflow.Failure Yield) → List Call
  | some (.ok (.completion (.reachable _))) => [.info]
  | _ => []

def calls (x : Surroundings) (o : Options) (s : Settings) (c : Command) : List Call :=
  seen Entry.request? (first x o s c).log ++ reloads (result x o s c)

def asked (x : Surroundings) (o : Options) (s : Settings) (c : Command) : List (Endpoint × Body) :=
  (calls x o s c).filterMap Http.Client.address?

variable {x : Surroundings} {o : Options} {s : Settings} {c : Command}

lemma settings_ok (h : settings x o = .ok s) :
    Settings.isDeviceUrl s.url = true ∧ 0 < s.reconnect.interval := by
  cases hl : Settings.load x.environment with
  | error e => simp [settings, hl] at h
  | ok t =>
    obtain ⟨hurl, hinterval⟩ := Settings.load_ok hl
    simp only [settings, hl] at h
    cases hd : o.device with
    | none =>
      rw [hd] at h
      cases h
      exact ⟨hurl, hinterval⟩
    | some url =>
      rw [hd] at h
      cases hu : t.setUrl url with
      | error m => simp [hu, Except.mapError] at h
      | ok u =>
        simp only [hu, Except.mapError, Except.ok.injEq] at h
        subst h
        obtain ⟨hdevice, hreconnect⟩ := Settings.setUrl_ok hu
        rw [hreconnect]
        exact ⟨hdevice, hinterval⟩

@[simp] lemma setting_device (x : Surroundings) (yes : Bool) (c : Http.Client) :
    (x.setting yes c).device = c.device x.network := rfl

lemma entries_address (log : List (Stamped Entry)) :
    (log.filterMap address?).map (·.entry) =
      (seen Entry.request? log).filterMap Http.Client.address? := by
  rw [List.map_filterMap, seen, List.filterMap_filterMap]
  refine List.filterMap_congr fun e _ => ?_
  obtain ⟨t, e⟩ := e
  cases e with
  | call k => cases k <;> rfl
  | _ => rfl

lemma reload_run (s : Setting) (es : List Entry) (attempts : Nat) :
    (reload s es (.completion (.reachable attempts))).run .never =
      ⟨(loadInfo (s.after es) .never).log,
        (loadInfo (s.after es) .never).ending.map fun e => (e.1, e.2.map fun _ => ())⟩ :=
  Activity.map_run _ _ .never

def last (x : Surroundings) (o : Options) (s : Settings) (c : Command) (y : Yield) :
    Run Entry (Except Workflow.Failure Unit) :=
  (reload (x.setting o.yes s.client) (first x o s c).entries y).run .never

def sentFor (x : Surroundings) (o : Options) (s : Settings) (c : Command)
    (log : List (Stamped Entry)) : List (List Http.Request) :=
  s.client.traffic x.network ((first x o s c).ending.elim 0 Prod.fst) [] (log.filterMap address?)

lemma runCommand_waiting (h : (first x o s c).ending = none) :
    (runCommand x o s c).status = none ∧
      (runCommand x o s c).exchanges = sentFor x o s c (first x o s c).log := by
  rw [sentFor]
  simp only [first] at h
  simp only [runCommand, h, first]
  exact ⟨trivial, trivial⟩

lemma runCommand_failed {t : Nat} {f : Workflow.Failure}
    (h : (first x o s c).ending = some (t, .error f)) :
    (runCommand x o s c).status = some 1 ∧
      (runCommand x o s c).exchanges = sentFor x o s c (first x o s c).log := by
  rw [sentFor]
  simp only [first] at h
  simp only [runCommand, h, first]
  exact ⟨trivial, trivial⟩

lemma runCommand_done {t : Nat} {y : Yield} (h : (first x o s c).ending = some (t, .ok y)) :
    (runCommand x o s c).status =
        (last x o s c y).ending.map (fun e => if e.2.toBool then 0 else 1) ∧
      (runCommand x o s c).exchanges =
        sentFor x o s c ((first x o s c).log ++ (last x o s c y).log) := by
  rw [sentFor]
  simp only [first] at h
  simp only [runCommand, h, first]
  rcases hl : (last x o s c y).ending with _ | ⟨u, f | v⟩
  all_goals
    simp only [last, first] at hl
    simp only [hl, last, first]
    exact ⟨rfl, trivial⟩

lemma reload_idle {y : Yield} (h : ∀ attempts, y ≠ .completion (.reachable attempts))
    (s : Setting) (es : List Entry) :
    (reload s es y).run .never = ⟨[], some (0, .ok ())⟩ := by
  cases y with
  | info i => rfl
  | completion r =>
    cases r with
    | declined => rfl
    | reloadManually attempts => rfl
    | reachable attempts => exact absurd rfl (h attempts)

lemma last_calls (y : Yield) :
    seen Entry.request? (last x o s c y).log = reloads (some (.ok y)) := by
  by_cases h : ∃ attempts, y = .completion (.reachable attempts)
  · obtain ⟨attempts, rfl⟩ := h
    rw [last, reload_run, loadInfo_requests, reloads]
  · have hy : ∀ attempts, y ≠ .completion (.reachable attempts) := fun k hk => h ⟨k, hk⟩
    rw [last, reload_idle hy, reloads]
    · rfl
    · intro k hk
      exact hy k (Except.ok.inj (Option.some.inj hk))

lemma runCommand_made (x : Surroundings) (o : Options) (s : Settings) (c : Command) :
    List.Forall₂ (fun a => s.client.Made x.network a.1 a.2)
      (Http.Client.numbered [] (asked x o s c)) (runCommand x o s c).exchanges := by
  obtain ⟨log, hx, hlog⟩ : ∃ log, (runCommand x o s c).exchanges = sentFor x o s c log ∧
      seen Entry.request? log = calls x o s c := by
    rw [calls, result]
    rcases hf : (first x o s c).ending with _ | ⟨t, f | y⟩
    · exact ⟨_, (runCommand_waiting hf).2, (List.append_nil _).symm⟩
    · exact ⟨_, (runCommand_failed hf).2, (List.append_nil _).symm⟩
    · refine ⟨_, (runCommand_done hf).2, ?_⟩
      rw [seen_append, last_calls, Option.map_some]
  rw [hx, asked, ← hlog, ← entries_address]
  exact Http.Client.traffic_made ..

lemma info_calls (es : List Entry) :
    es.countP Entry.isInfo = (es.filterMap Entry.request?).countP fun
      | .info => true
      | _ => false := by
  rw [List.countP_filterMap]
  refine List.countP_congr fun e _ => ?_
  cases e with
  | call k => cases k <;> simp [Entry.isInfo, Entry.request?]
  | _ => simp [Entry.isInfo, Entry.request?]

lemma first_inquiries (x : Surroundings) (o : Options) (s : Settings) (c : Command) :
    (first x o s c).entries.countP Entry.isInfo = inquiries c := by
  rw [info_calls, ← Run.seen_log]
  cases c with
  | info =>
    rw [first, perform_info, loadInfo_requests]
    rfl
  | update path =>
    rw [first, perform_update]
    rcases (updateRequests s.workflow (x.setting o.yes s.client) path .never).word with
      hw | ⟨image, n, _, hw⟩
    · rw [Activity.run] at hw
      rw [hw]
      rfl
    · rw [Activity.run] at hw
      rw [hw]
      simp [inquiries]
  | rollback =>
    rw [first, perform_rollback]
    rcases (rollbackRequests s.workflow (x.setting o.yes s.client) .never).word with
      hw | ⟨n, _, hw⟩
    · rw [Activity.run] at hw
      rw [hw]
      rfl
    · rw [Activity.run] at hw
      rw [hw]
      simp [inquiries]

lemma after_info (s : Setting) (log : List Entry) (n : Nat) :
    (s.after log).device.info n = s.device.info (n + log.countP Entry.isInfo) := rfl

lemma runCommand_reloads {t attempts : Nat}
    (h : (first x o s c).ending = some (t, .ok (.completion (.reachable attempts)))) :
    (runCommand x o s c).status =
      (s.client.info x.network (inquiries c)).map fun a => if a.2.toBool then 0 else 1 := by
  rw [(runCommand_done h).1, last, reload_run, loadInfo_run, after_info, setting_device,
    Http.Client.device_info, first_inquiries, Nat.zero_add]
  rcases s.client.info x.network (inquiries c) with _ | ⟨d, causes | i⟩ <;> rfl

lemma runCommand_rests {t : Nat} {y : Yield} (h : (first x o s c).ending = some (t, .ok y))
    (hy : ∀ attempts, y ≠ .completion (.reachable attempts)) :
    (runCommand x o s c).status = some 0 := by
  rw [(runCommand_done h).1, last, reload_idle hy]
  rfl

lemma runCommand_status (x : Surroundings) (o : Options) (s : Settings) (c : Command) :
    (runCommand x o s c).status = some 0 ∨ (runCommand x o s c).status = some 1 ∨
      (runCommand x o s c).status = none := by
  rcases hf : (first x o s c).ending with _ | ⟨t, f | y⟩
  · exact .inr (.inr (runCommand_waiting hf).1)
  · exact .inr (.inl (runCommand_failed hf).1)
  · rw [(runCommand_done hf).1]
    cases (last x o s c y).ending with
    | none => simp
    | some e => cases he : e.2.toBool <;> simp [he]

end FirmwareUpdate.CommandLine
