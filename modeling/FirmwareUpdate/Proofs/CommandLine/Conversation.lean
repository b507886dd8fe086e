import FirmwareUpdate.Proofs.CommandLine.Course

/-! What one run of the tool asks of a device. Its calls spell one of a few conversations, none
changes the device without the user's consent, and the exit status tells how the last of them went.
-/

namespace FirmwareUpdate.CommandLine

open Terminal Workflow
open Http (Endpoint Body)

def Reaches (x : Surroundings) (o : Options) (s : Settings) (c : Command) : Prop :=
  ∃ attempts, result x o s c = some (.ok (.completion (.reachable attempts)))

/-- The calls after one that restarts the device. Only a device that is back is asked what it
runs. -/
inductive Restart (greatest : Nat) (back : Prop) : List Endpoint → Prop
  | lost {n : Nat} : ¬ back → n ≤ greatest → Restart greatest back (List.replicate n .state)
  | found {n : Nat} : back → n ≤ greatest →
      Restart greatest back (List.replicate n .state ++ [.info])

inductive Conversation (greatest : Nat) (back : Prop) : Command → List Endpoint → Prop
  | info : ¬ back → Conversation greatest back .info [.info]
  | nothing {path : String} : ¬ back → Conversation greatest back (.update path) []
  | update {path : String} {es : List Endpoint} : Restart greatest back es →
      Conversation greatest back (.update path) (.upload :: es)
  | inquiry : ¬ back → Conversation greatest back .rollback [.info]
  | rollback {es : List Endpoint} : Restart greatest back es →
      Conversation greatest back .rollback (.info :: .rollback :: es)

def Reloads (x : Surroundings) (s : Settings) (c : Command) : Prop :=
  ∃ text i, s.client.Answers x.network .info (inquiries c) text ∧ DeviceInfo.decode text = .ok i

def Posts (rs : List Http.Request) : Prop :=
  ∃ q ∈ rs, q.method = "POST"

def endpoints (x : Surroundings) (o : Options) (s : Settings) (c : Command) : List Endpoint :=
  (asked x o s c).map Prod.fst

/-- How a run goes: what is asked of the device, what a host sees of that, on which conditions it is
asked to change, and what the exit status tells. -/
structure Conducts (x : Surroundings) (o : Options) (c : Command) (s : Settings) (r : Outcome) :
    Prop where
  word : Conversation s.reconnect.maxAttempts (Reaches x o s c) c (endpoints x o s c)
  exchanges : List.Forall₂ (fun a => s.client.Made x.network a.1 a.2)
    (Http.Client.numbered [] (asked x o s c)) r.exchanges
  bounded : ∀ rs ∈ r.exchanges, rs.length ≤ Http.Client.greatestRedirects + 1
  direct : Http.Direct x.network → List.Forall₂ s.client.Asks
    ((asked x o s c).filter fun k => s.client.isReached x.network k.1) r.requests
  back : Reaches x o s c ↔
    ∃ i < (endpoints x o s c).count .state, s.client.Healthy x.network i
  final : Reaches x o s c ↔
    (endpoints x o s c).getLast? = some .info ∧ .state ∈ endpoints x o s c
  reached : Reaches x o s c → s.client.isReached x.network .info = true
  uploads : ∀ path body, c = .update path → ((.upload, body) ∈ asked x o s c ↔
    ∃ v data, Sends s.workflow (x.setting o.yes s.client) path .never v data ∧
      body = .form (Http.Client.firmwarePart ⟨v.file.name, data⟩))
  rollbacks : c = .rollback → (.rollback ∈ endpoints x o s c ↔
    ∃ d info, Grants (x.setting o.yes s.client) d info)
  single : r.exchanges.countP Http.hasPost ≤ 1
  consent : Posts r.requests → o.yes = true ∨
    ∃ cs, Text.Utf8.decode (firstLine x.input) = some cs ∧ isYes cs = true
  refusal : o.yes = false → x.input = [] ∨ Text.Utf8.decode (firstLine x.input) = none →
    ¬ Posts r.requests
  offer : c = .rollback → Posts r.requests → ∃ text ms, s.client.Answers x.network .info 0 text ∧
    DeviceInfo.record.read text = .ok ms ∧ ms.flag? "can_rollback" = some true
  success : r.status = some 0 ↔ ∃ y, result x o s c = some (.ok y) ∧
    ∀ attempts, y = .completion (.reachable attempts) → Reloads x s c
  status : r.status = some 0 ∨ r.status = some 1 ∨ r.status = none

variable {x : Surroundings} {o : Options} {s : Settings} {c : Command}

lemma healthy_iff {n : Nat} :
    ((x.setting o.yes s.client).device.probe n).isHealthy s.workflow.reconnect.timeout = true ↔
      s.client.Healthy x.network n := by
  have htimeout : s.workflow.reconnect.timeout = s.client.probeTimeout := rfl
  rw [setting_device, Http.Client.device_probe, htimeout, Http.Client.probe_iff]

lemma reaches_iff {r : Option Workflow.Result}
    (h : result x o s c = r.map (Except.map .completion)) : Reaches x o s c ↔ IsBack r := by
  rw [Reaches, h]
  rcases r with _ | f | y <;> simp [IsBack, Except.map]

lemma reloads_back (h : Reaches x o s c) : reloads (result x o s c) = [.info] := by
  obtain ⟨attempts, h⟩ := h
  rw [h, reloads]

lemma reloads_lost (h : ¬ Reaches x o s c) : reloads (result x o s c) = [] := by
  rw [reloads]
  exact fun attempts hr => h ⟨attempts, hr⟩

def kinds (ks : List Call) : List Endpoint :=
  (ks.filterMap Http.Client.address?).map Prod.fst

lemma kinds_append (k l : List Call) : kinds (k ++ l) = kinds k ++ kinds l := by
  rw [kinds, List.filterMap_append, List.map_append]
  rfl

lemma kinds_states (n : Nat) : kinds (List.replicate n .state) = List.replicate n .state := by
  have hstate : Http.Client.address? .state = some (.state, .empty) := rfl
  rw [kinds, List.filterMap_replicate_of_some hstate, List.map_replicate]

lemma followed_kinds {k : List Call} {r : Option Workflow.Result}
    (hr : result x o s c = r.map (Except.map .completion))
    (hf : Followed s.workflow (x.setting o.yes s.client) k r) :
    Restart s.reconnect.maxAttempts (Reaches x o s c) (kinds (k ++ reloads (result x o s c))) ∧
      (Reaches x o s c ↔ ∃ i < (kinds (k ++ reloads (result x o s c))).count .state,
        s.client.Healthy x.network i) := by
  obtain ⟨n, hn, rfl, hb⟩ := hf
  simp only [← reaches_iff hr, healthy_iff] at hb
  by_cases h : Reaches x o s c
  · rw [reloads_back h, kinds_append, kinds_states]
    refine ⟨.found h hn, ?_⟩
    simpa [kinds, Http.Client.address?] using hb
  · rw [reloads_lost h, List.append_nil, kinds_states]
    refine ⟨.lost h hn, ?_⟩
    simpa using hb

structure Converses (x : Surroundings) (o : Options) (s : Settings) (c : Command) : Prop where
  word : Conversation s.reconnect.maxAttempts (Reaches x o s c) c (kinds (calls x o s c))
  back : Reaches x o s c ↔ ∃ i < (kinds (calls x o s c)).count .state, s.client.Healthy x.network i

lemma Converses.unprobed {es : List Endpoint} (h : ¬ Reaches x o s c)
    (hcalls : kinds (calls x o s c) = es) (hes : es.count .state = 0)
    (hword : Conversation s.reconnect.maxAttempts (Reaches x o s c) c es) : Converses x o s c := by
  constructor
  · rw [hcalls]
    exact hword
  · rw [hcalls, hes]
    exact iff_of_false h (by simp)

lemma Converses.probed {front : List Endpoint} {k : List Call} {r : Option Workflow.Result}
    (hr : result x o s c = r.map (Except.map .completion))
    (hf : Followed s.workflow (x.setting o.yes s.client) k r)
    (hcalls : kinds (calls x o s c) = front ++ kinds (k ++ reloads (result x o s c)))
    (hfront : front.count .state = 0)
    (hword : ∀ {es}, Restart s.reconnect.maxAttempts (Reaches x o s c) es →
      Conversation s.reconnect.maxAttempts (Reaches x o s c) c (front ++ es)) :
    Converses x o s c := by
  obtain ⟨hrestart, hback⟩ := followed_kinds hr hf
  constructor
  · rw [hcalls]
    exact hword hrestart
  · rw [hcalls, List.count_append, hfront, Nat.zero_add]
    exact hback

lemma info_not_back (r : Option (Nat × Except Workflow.Failure DeviceInfo)) (attempts : Nat) :
    (r.map fun e => (e.1, e.2.map Yield.info)).map Prod.snd ≠
      some (.ok (.completion (.reachable attempts))) := by
  rcases r with _ | ⟨t, f | i⟩ <;> simp [Except.map]

lemma info_result (x : Surroundings) (o : Options) (s : Settings) :
    result x o s .info = ((loadInfo (x.setting o.yes s.client) .never).ending.map fun e =>
      (e.1, e.2.map Yield.info)).map Prod.snd := by
  rw [result, first, perform_info]

lemma info_converses (x : Surroundings) (o : Options) (s : Settings) : Converses x o s .info := by
  have hnot : ¬ Reaches x o s .info := by
    rintro ⟨attempts, h⟩
    rw [info_result] at h
    exact info_not_back _ attempts h
  have hcalls : kinds (calls x o s .info) = [.info] := by
    rw [calls, reloads_lost hnot, List.append_nil, first, perform_info, loadInfo_requests]
    rfl
  exact .unprobed hnot hcalls rfl (.info hnot)

lemma result_completion (r : Option (Nat × Workflow.Result)) :
    (r.map fun e => (e.1, e.2.map Yield.completion)).map Prod.snd =
      (r.map Prod.snd).map (Except.map .completion) := by
  cases r <;> rfl

lemma update_result (x : Surroundings) (o : Options) (s : Settings) (path : String) :
    result x o s (.update path) =
      ((update s.workflow (x.setting o.yes s.client) path .never).ending.map Prod.snd).map
        (Except.map .completion) := by
  rw [result, first, perform_update, result_completion]

lemma update_calls (x : Surroundings) (o : Options) (s : Settings) (path : String) :
    calls x o s (.update path) =
      seen Entry.request? (update s.workflow (x.setting o.yes s.client) path .never).log ++
        reloads (result x o s (.update path)) := by
  rw [calls, first, perform_update]

lemma update_converses (x : Surroundings) (o : Options) (s : Settings) (path : String) :
    Converses x o s (.update path) := by
  have hr := update_result x o s path
  by_cases hs : ∃ v data, Sends s.workflow (x.setting o.yes s.client) path .never v data
  · obtain ⟨v, data, hs⟩ := hs
    obtain ⟨k, hk, hf⟩ := hs.calls
    have hcalls : kinds (calls x o s (.update path)) =
        [.upload] ++ kinds (k ++ reloads (result x o s (.update path))) := by
      rw [update_calls, hk]
      rfl
    exact .probed hr hf hcalls rfl .update
  · have hnone : ∀ v data, ¬ Sends s.workflow (x.setting o.yes s.client) path .never v data :=
      fun v data hv => hs ⟨v, data, hv⟩
    have hnot : ¬ Reaches x o s (.update path) :=
      fun h => update_not_back hnone ((reaches_iff hr).mp h)
    have hcalls : kinds (calls x o s (.update path)) = [] := by
      rw [update_calls, update_idle hnone, reloads_lost hnot]
      rfl
    exact .unprobed hnot hcalls rfl (.nothing hnot)

lemma rollback_result (x : Surroundings) (o : Options) (s : Settings) :
    result x o s .rollback =
      ((rollback s.workflow (x.setting o.yes s.client) .never).ending.map Prod.snd).map
        (Except.map .completion) := by
  rw [result, first, perform_rollback, result_completion]

lemma rollback_calls (x : Surroundings) (o : Options) (s : Settings) :
    calls x o s .rollback =
      seen Entry.request? (rollback s.workflow (x.setting o.yes s.client) .never).log ++
        reloads (result x o s .rollback) := by
  rw [calls, first, perform_rollback]

lemma rollback_converses (x : Surroundings) (o : Options) (s : Settings) :
    Converses x o s .rollback := by
  have hr := rollback_result x o s
  by_cases hg : ∃ d info, Grants (x.setting o.yes s.client) d info
  · obtain ⟨d, info, hg⟩ := hg
    obtain ⟨k, hk, hf⟩ := hg.calls s.workflow
    have hcalls : kinds (calls x o s .rollback) =
        [.info, .rollback] ++ kinds (k ++ reloads (result x o s .rollback)) := by
      rw [rollback_calls, hk]
      rfl
    exact .probed hr hf hcalls rfl .rollback
  · have hnone : ∀ d info, ¬ Grants (x.setting o.yes s.client) d info :=
      fun d info hi => hg ⟨d, info, hi⟩
    have hnot : ¬ Reaches x o s .rollback :=
      fun h => rollback_not_back hnone ((reaches_iff hr).mp h)
    have hcalls : kinds (calls x o s .rollback) = [.info] := by
      rw [rollback_calls, rollback_idle hnone, reloads_lost hnot]
      rfl
    exact .unprobed hnot hcalls rfl (.inquiry hnot)

lemma converses (x : Surroundings) (o : Options) (s : Settings) (c : Command) :
    Converses x o s c := by
  cases c with
  | info => exact info_converses x o s
  | update path => exact update_converses x o s path
  | rollback => exact rollback_converses x o s

lemma reaches_reached (h : settings x o = .ok s) (hr : Reaches x o s c) :
    s.client.isReached x.network .info = true := by
  obtain ⟨i, _, delay, _, a, hx, _⟩ := (converses x o s c).back.mp hr
  exact Http.Client.isReached_info (settings_ok h).1 (Http.Client.isReached_of_answer rfl hx)

lemma mem_asked {k : Endpoint × Body} (hk : k ∈ asked x o s c)
    (hp : k.1 = .upload ∨ k.1 = .rollback) :
    ∃ call ∈ seen Entry.request? (first x o s c).log, Http.Client.address? call = some k := by
  obtain ⟨call, hm, ha⟩ := List.mem_filterMap.mp hk
  refine ⟨call, (List.mem_append.mp hm).resolve_right fun hl => ?_, ha⟩
  simp only [reloads] at hl
  split at hl
  · obtain rfl := List.mem_singleton.mp hl
    cases ha
    simp at hp
  · cases hl

lemma posts_asked (h : Posts (runCommand x o s c).requests) :
    ∃ k ∈ asked x o s c, k.1 = .upload ∨ k.1 = .rollback := by
  obtain ⟨q, hq, hm⟩ := h
  obtain ⟨rs, hrs, hq⟩ := List.mem_flatten.mp hq
  obtain ⟨k, hk, n, hmade⟩ :=
    Http.Client.made_of_mem (Http.Client.made_each (runCommand_made x o s c)) hrs
  exact ⟨k, hk, hmade.posts hq hm⟩

lemma upload_asked (x : Surroundings) (o : Options) (s : Settings) (path : String) (body : Body) :
    (.upload, body) ∈ asked x o s (.update path) ↔
      ∃ v data, Sends s.workflow (x.setting o.yes s.client) path .never v data ∧
        body = .form (Http.Client.firmwarePart ⟨v.file.name, data⟩) := by
  constructor
  · intro hk
    obtain ⟨call, hm, ha⟩ := mem_asked hk (.inl rfl)
    rw [first, perform_update] at hm
    dsimp only at hm
    obtain ⟨v, data, hs⟩ := exists_sends hm
    obtain ⟨l, hl, n, _, rfl, _⟩ := hs.calls
    rw [hl] at hm
    refine ⟨v, data, hs, ?_⟩
    rcases List.mem_cons.mp hm with rfl | hm
    · cases ha
      rfl
    · obtain rfl := List.eq_of_mem_replicate hm
      cases ha
  · rintro ⟨v, data, hs, rfl⟩
    obtain ⟨l, hl, _⟩ := hs.calls
    refine List.mem_filterMap.mpr ⟨.upload ⟨v.file.name, data⟩, ?_, rfl⟩
    rw [update_calls, hl]
    exact List.mem_append_left _ List.mem_cons_self

lemma rollback_asked (x : Surroundings) (o : Options) (s : Settings) :
    .rollback ∈ endpoints x o s .rollback ↔
      ∃ d info, Grants (x.setting o.yes s.client) d info := by
  constructor
  · intro he
    obtain ⟨k, hk, hr⟩ := List.mem_map.mp he
    obtain ⟨call, hm, ha⟩ := mem_asked hk (.inr hr)
    rw [first, perform_rollback] at hm
    dsimp only at hm
    refine exists_grants hm ?_
    rintro rfl
    cases ha
    cases hr
  · rintro ⟨d, info, hg⟩
    obtain ⟨l, hl, _⟩ := hg.calls s.workflow
    refine List.mem_map.mpr ⟨(.rollback, .empty), List.mem_filterMap.mpr ⟨.rollback, ?_, rfl⟩, rfl⟩
    rw [rollback_calls, hl]
    exact List.mem_append_left _ (List.mem_cons_of_mem _ List.mem_cons_self)

lemma posts_agreed (h : Posts (runCommand x o s c).requests) :
    ((x.setting o.yes s.client).reply 0).accepts = true ∧
      (c = .rollback → ∃ d info, Grants (x.setting o.yes s.client) d info) := by
  obtain ⟨k, hk, hpost⟩ := posts_asked h
  obtain ⟨call, hm, ha⟩ := mem_asked hk hpost
  have hne : call ≠ .info := by
    rintro rfl
    cases ha
    simp at hpost
  cases c with
  | info =>
    rw [first, perform_info, loadInfo_requests] at hm
    exact absurd (List.mem_singleton.mp hm) hne
  | update path =>
    rw [first, perform_update] at hm
    dsimp only at hm
    obtain ⟨v, data, hs⟩ := exists_sends hm
    exact ⟨hs.accepted, by simp⟩
  | rollback =>
    rw [first, perform_rollback] at hm
    dsimp only at hm
    obtain ⟨d, info, hg⟩ := exists_grants hm hne
    exact ⟨hg.accepted, fun _ => ⟨d, info, hg⟩⟩

lemma restart_final {greatest : Nat} {back : Prop} {es : List Endpoint}
    (h : Restart greatest back es) (hs : back → .state ∈ es) (front : List Endpoint)
    (hfront : front.getLast? ≠ some .info) :
    back ↔ (front ++ es).getLast? = some .info ∧ .state ∈ front ++ es := by
  cases h with
  | @lost n hnot _ =>
    refine iff_of_false hnot fun hes => ?_
    cases n with
    | zero => exact hfront (by simpa using hes.1)
    | succ n => simp [List.getLast?_append, List.getLast?_replicate] at hes
  | found hback _ =>
    refine iff_of_true hback ⟨?_, List.mem_append_right _ (hs hback)⟩
    rw [← List.append_assoc, List.getLast?_concat]

lemma conversation_final {greatest : Nat} {back : Prop} {es : List Endpoint}
    (h : Conversation greatest back c es) (hs : back → .state ∈ es) :
    back ↔ es.getLast? = some .info ∧ .state ∈ es := by
  cases h with
  | info hnot => exact iff_of_false hnot (by simp)
  | nothing hnot => exact iff_of_false hnot (by simp)
  | inquiry hnot => exact iff_of_false hnot (by simp)
  | update hr => exact restart_final hr (by simpa using hs) [.upload] (by simp)
  | rollback hr => exact restart_final hr (by simpa using hs) [.info, .rollback] (by simp)

lemma Converses.state_mem (h : Converses x o s c) (hr : Reaches x o s c) :
    .state ∈ kinds (calls x o s c) := by
  obtain ⟨i, hi, _⟩ := h.back.mp hr
  exact List.count_pos_iff.mp (Nat.zero_lt_of_lt hi)

lemma restart_keeps {greatest : Nat} {back : Prop} {es : List Endpoint}
    (h : Restart greatest back es) : es.countP Endpoint.isChange = 0 := by
  cases h with
  | lost => simp [List.countP_replicate, Endpoint.isChange]
  | found => simp [List.countP_append, List.countP_replicate, Endpoint.isChange]

lemma conversation_change {greatest : Nat} {back : Prop} {es : List Endpoint}
    (h : Conversation greatest back c es) : es.countP Endpoint.isChange ≤ 1 := by
  cases h with
  | info => exact Nat.zero_le 1
  | nothing => exact Nat.zero_le 1
  | inquiry => exact Nat.zero_le 1
  | update hr => simp [List.countP_cons, restart_keeps hr, Endpoint.isChange]
  | rollback hr => simp [List.countP_cons, restart_keeps hr, Endpoint.isChange]

lemma answer_yes {yes : Bool} {input : List UInt8} (h : answer yes input = .yes) :
    yes = true ∨ ∃ cs, Text.Utf8.decode (firstLine input) = some cs ∧ isYes cs = true := by
  cases yes with
  | true => exact .inl rfl
  | false =>
    right
    simp only [answer, Bool.false_eq_true, if_false] at h
    split at h
    · cases h
    · next cs hd =>
      refine ⟨cs, hd, ?_⟩
      by_contra hn
      simp [hn] at h

lemma posts_consent (h : Posts (runCommand x o s c).requests) : o.yes = true ∨
    ∃ cs, Text.Utf8.decode (firstLine x.input) = some cs ∧ isYes cs = true := by
  have ha := (posts_agreed h).1
  simp only [Surroundings.setting, beq_iff_eq] at ha
  exact answer_yes ha

lemma posts_refused (hyes : o.yes = false)
    (hinput : x.input = [] ∨ Text.Utf8.decode (firstLine x.input) = none) :
    ¬ Posts (runCommand x o s c).requests := by
  intro hp
  rcases posts_consent hp with hy | ⟨cs, hd, hcs⟩
  · rw [hyes] at hy
    cases hy
  · rcases hinput with hnil | hnone
    · have hempty : Text.Utf8.decode (firstLine []) = some [] := by
        simp [firstLine, Text.Utf8.decode, Text.Utf8.characters]
      rw [hnil, hempty] at hd
      obtain rfl : [] = cs := Option.some.inj hd
      exact absurd hcs (by decide)
    · rw [hnone] at hd
      cases hd

lemma decode_flag {text : List Char} {info : DeviceInfo} (h : DeviceInfo.decode text = .ok info)
    (hr : info.canRollback = true) :
    ∃ ms, DeviceInfo.record.read text = .ok ms ∧ ms.flag? "can_rollback" = some true := by
  cases hm : DeviceInfo.record.read text with
  | error f => simp [DeviceInfo.decode, hm, Except.map] at h
  | ok ms =>
    simp only [DeviceInfo.decode, hm, Except.map, Except.ok.injEq] at h
    subst h
    refine ⟨ms, rfl, ?_⟩
    cases hf : ms.flag? "can_rollback" with
    | none => simp [DeviceInfo.ofMembers, hf] at hr
    | some b => simpa [DeviceInfo.ofMembers, hf] using hr

lemma granted_offer {d : Nat} {info : DeviceInfo}
    (h : Grants (x.setting o.yes s.client) d info) :
    ∃ text ms, s.client.Answers x.network .info 0 text ∧
      DeviceInfo.record.read text = .ok ms ∧ ms.flag? "can_rollback" = some true := by
  have ha := h.answered
  rw [setting_device, Http.Client.device_info] at ha
  obtain ⟨text, htext, hdecode⟩ := Http.Client.info_iff.mp ⟨d, ha⟩
  obtain ⟨ms, hms, hflag⟩ := decode_flag hdecode h.available
  exact ⟨text, ms, htext, hms, hflag⟩

lemma runCommand_success (x : Surroundings) (o : Options) (s : Settings) (c : Command) :
    (runCommand x o s c).status = some 0 ↔ ∃ y, result x o s c = some (.ok y) ∧
      ∀ attempts, y = .completion (.reachable attempts) → Reloads x s c := by
  cases hf : (first x o s c).ending with
  | none => simp [(runCommand_waiting hf).1, result, hf]
  | some e =>
    obtain ⟨t, r⟩ := e
    have hr : result x o s c = some r := by rw [result, hf, Option.map_some]
    cases r with
    | error f => simp [(runCommand_failed hf).1, hr]
    | ok y =>
      simp only [hr, Option.some.injEq, Except.ok.injEq, exists_eq_left']
      by_cases hy : ∃ attempts, y = .completion (.reachable attempts)
      · obtain ⟨attempts, rfl⟩ := hy
        have hloads : Reloads x s c ↔
            ∃ i delay, s.client.info x.network (inquiries c) = some (delay, .ok i) := by
          simp only [Http.Client.info_iff, Reloads]
          rw [exists_comm]
        have honly : (∀ k, Yield.completion (.reachable attempts) = .completion (.reachable k) →
            Reloads x s c) ↔ Reloads x s c :=
          ⟨fun hall => hall attempts rfl, fun hr _ _ => hr⟩
        rw [runCommand_reloads hf, honly, hloads]
        rcases s.client.info x.network (inquiries c) with _ | ⟨d, causes | i⟩ <;>
          simp [Except.toBool]
      · have hrests : ∀ attempts, y ≠ .completion (.reachable attempts) := fun k hk => hy ⟨k, hk⟩
        simp only [runCommand_rests hf hrests, true_iff]
        exact fun attempts hk => absurd hk (hrests attempts)

def unattended : Surroundings where
  environment _ := none
  input := []
  files := .empty
  network := .host fun _ _ _ => .answer 0
    ⟨200, none, "\x7b\"success\":true,\"can_rollback\":true\x7d".toUTF8.toList, false⟩

end FirmwareUpdate.CommandLine
