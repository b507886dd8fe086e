import FirmwareUpdate.Proofs.Http.Url
import FirmwareUpdate.Proofs.Truncation
import FirmwareUpdate.Settings

/-! What a client makes of a network. A call that no host sees is an error; of the answers to the
others a client takes those whose status and body are as they should be. Each further request of a
call is one that the answer before it leads to. A device that a request for its state reaches is
reached by a request for what it runs, whatever its URL is. -/

namespace FirmwareUpdate.Http

def Direct (net : Network) : Prop :=
  ∀ reply, net = .host reply → ∀ e n k delay a, reply e n k = .answer delay a → a.location = none

def Endpoint.isChange : Endpoint → Bool
  | .upload | .rollback => true
  | .info | .state => false

def hasPost (rs : List Request) : Bool := rs.any (·.method == "POST")

namespace Client

variable {c : Client} {net : Network} {e : Endpoint} {n : Nat} {body : Body}

def Answers (c : Client) (net : Network) (e : Endpoint) (n : Nat) (text : List Char) : Prop :=
  ∃ delay a, (c.exchange net e n .empty).ending = some (delay, .ok a) ∧
    isSuccess a.status = true ∧ a.cut = false ∧ Text.Utf8.decodeLossy a.body = text

def Healthy (c : Client) (net : Network) (n : Nat) : Prop :=
  ∃ delay ≤ c.probeTimeout, ∃ a,
    (c.exchange net .state n .empty).ending = some (delay, .ok a) ∧ a.isError = false

lemma new_base {url : String} (h : Settings.isDeviceUrl url = true) (timeout : Nat) :
    ∃ S B, Url.IsScheme S ∧ (new url timeout).base.toList = S ++ ':' :: B := by
  have hbase : ∀ (S B : List Char), url.toList = S ++ ':' :: B →
      ∃ B', (new url timeout).base.toList = S ++ ':' :: B' := by
    intro S B hu
    refine ⟨Text.trimEnd isSlash B, ?_⟩
    rw [new, String.toList_ofList, hu, Text.trimEnd_keeps (by decide)]
  rw [Settings.isDeviceUrl, Bool.or_eq_true] at h
  rcases h with h | h
  · obtain ⟨B, hB⟩ := List.isPrefixOf_iff_prefix.mp h
    obtain ⟨B', hB'⟩ := hbase ['h', 't', 't', 'p'] ('/' :: '/' :: B) hB.symm
    exact ⟨_, B', .inl rfl, hB'⟩
  · obtain ⟨B, hB⟩ := List.isPrefixOf_iff_prefix.mp h
    obtain ⟨B', hB'⟩ := hbase ['h', 't', 't', 'p', 's'] ('/' :: '/' :: B) hB.symm
    exact ⟨_, B', .inr rfl, hB'⟩

lemma isReached_info {url : String} {timeout : Nat}
    (h : Settings.isDeviceUrl url = true) (hr : (new url timeout).isReached net .state = true) :
    (new url timeout).isReached net .info = true := by
  obtain ⟨S, B, hS, hb⟩ := new_base h timeout
  obtain ⟨x, rest, hlength, hx⟩ := Url.parse_endpoints hS B
  have hparse : ∀ e : Endpoint, Url.parse ((new url timeout).url e.path) =
      x.map fun a => ⟨S, some a.1, a.2 ++ '/' :: rest e⟩ := by
    intro e
    apply hx
    rw [Client.url, String.toList_ofList, hb]
  cases net with
  | unreachable => cases hr
  | host reply =>
    cases x with
    | error err =>
      simp only [isReached, target, hparse, Except.map] at hr
      cases hr
    | ok a =>
      obtain ⟨b, hb⟩ := Url.anonymous_authority S a.1
      have ht : ∀ e : Endpoint, (new url timeout).isReached (.host reply) e =
          ((⟨S, some b, []⟩ : Url).isHttp &&
            (⟨S, some b, a.2 ++ '/' :: rest e⟩ : Url).isSendable) := by
        intro e
        have hhttp : (⟨S, some b, a.2 ++ '/' :: rest e⟩ : Url).isHttp =
            (⟨S, some b, []⟩ : Url).isHttp := rfl
        simp only [isReached, target, hparse, Except.map, hb, hhttp]
        cases (⟨S, some b, []⟩ : Url).isHttp with
        | false => rfl
        | true => cases (⟨S, some b, a.2 ++ '/' :: rest e⟩ : Url).isSendable <;> rfl
      rw [ht, Bool.and_eq_true] at hr ⊢
      refine ⟨hr.1, Url.isSendable_shorter hr.2 ?_⟩
      simpa using hlength

lemma exchange_unreached (h : c.isReached net e = false) (n : Nat) (body : Body) :
    ∃ f, c.exchange net e n body = ⟨[], some (0, .error f)⟩ := by
  cases ht : c.target e with
  | error f => exact ⟨f, by simp only [exchange, ht]⟩
  | ok u =>
    cases net with
    | unreachable => exact ⟨.unreachable u.text, by simp only [exchange, ht]⟩
    | host reply =>
      rw [isReached, ht] at h
      cases h

lemma exists_target (h : c.isReached net e = true) :
    ∃ reply u, net = .host reply ∧ c.target e = .ok u := by
  cases net with
  | unreachable => cases h
  | host reply =>
    cases ht : c.target e with
    | error f =>
      rw [isReached, ht] at h
      cases h
    | ok u => exact ⟨reply, u, rfl, rfl⟩

lemma isReached_of_answer {r : Run Request (Except Failure Answer)} {delay : Nat} {a : Answer}
    (hr : c.exchange net e n body = r) (h : r.ending = some (delay, .ok a)) :
    c.isReached net e = true := by
  by_contra hn
  obtain ⟨f, hf⟩ := exchange_unreached (Bool.eq_false_of_not_eq_true hn) n body
  rw [← hr, hf] at h
  cases h

/-- Each request leads to the next one, as long as some are left and the place is one on the web. -/
inductive Led : Nat → (Nat → Reply) → Request → List Request → Prop
  | last {left : Nat} {reply : Nat → Reply} {r : Request} :
      (∀ delay a u q, reply 0 = .answer delay a → r.led? a = some (u, q) →
        left = 0 ∨ u.isHttp = false) → Led left reply r []
  | onward {left delay : Nat} {reply : Nat → Reply} {r q : Request} {a : Response} {u : Url}
      {rs : List Request} : reply 0 = .answer delay a → r.led? a = some (u, q) →
      u.isHttp = true → Led left (fun k => reply (k + 1)) q rs → Led (left + 1) reply r (q :: rs)

lemma led_iff {r q : Request} {a : Response} {u : Url} :
    r.led? a = some (u, q) ↔
      a.location = some u ∧ u.isSendable = true ∧ r.moved? a.status u = some q := by
  cases hl : a.location with
  | none => simp [Request.led?, hl]
  | some v =>
    simp only [Request.led?, hl]
    cases hs : v.isSendable with
    | false =>
      simp only [Bool.false_eq_true, if_false]
      refine iff_of_false nofun ?_
      rintro ⟨hv, hsend, _⟩
      rw [← Option.some.inj hv, hs] at hsend
      cases hsend
    | true =>
      simp only [if_true, Option.map_eq_some_iff, Option.some.injEq, Prod.mk.injEq]
      constructor
      · rintro ⟨_, hm, rfl, rfl⟩
        exact ⟨rfl, hs, hm⟩
      · rintro ⟨rfl, _, hm⟩
        exact ⟨q, hm, rfl, rfl⟩

lemma moved_method {r q : Request} {status : Nat} {u : Url} (h : r.moved? status u = some q)
    (hq : q.method = "POST") : r.method = "POST" := by
  by_contra hn
  have hget : ¬ "GET" = "POST" := by decide
  simp only [Request.moved?, if_neg hn] at h
  split at h <;> cases h
  · exact hn hq
  · exact hn hq
  · exact hget hq
  · exact hn hq
  · exact hn hq

lemma Led.method {left : Nat} {reply : Nat → Reply} {r : Request} {rs : List Request}
    (h : Led left reply r rs) : ∀ q ∈ rs, q.method = "POST" → r.method = "POST" := by
  induction h with
  | last => exact nofun
  | onward _ hr _ _ ih =>
    intro q hq hm
    rcases List.mem_cons.mp hq with rfl | hq
    · exact moved_method (led_iff.mp hr).2.2 hm
    · exact moved_method (led_iff.mp hr).2.2 (ih q hq hm)

lemma Led.length_le {left : Nat} {reply : Nat → Reply} {r : Request} {rs : List Request}
    (h : Led left reply r rs) : rs.length ≤ left := by
  induction h with
  | last => exact Nat.zero_le _
  | onward _ _ _ _ ih => exact Nat.succ_le_succ ih

lemma Led.direct {left : Nat} {reply : Nat → Reply} {r : Request} {rs : List Request}
    (h : Led left reply r rs)
    (hd : ∀ k delay a, reply k = .answer delay a → a.location = none) : rs = [] := by
  cases h with
  | last => rfl
  | onward ha hr =>
    have hl := (led_iff.mp hr).1
    rw [hd _ _ _ ha] at hl
    cases hl

lemma follow_cases (url : String) (left : Nat) (reply : Nat → Reply) (r : Request) :
    ((∃ ending, follow url left reply r .never = ⟨[⟨0, r⟩], ending⟩) ∧ Led left reply r []) ∨
      ∃ more delay a u q, left = more + 1 ∧ reply 0 = .answer delay a ∧
        r.led? a = some (u, q) ∧ u.isHttp = true ∧ follow url left reply r .never =
          ((follow url more (fun k => reply (k + 1)) q .never).later delay).after [⟨0, r⟩] := by
  rw [follow, Activity.write_bind, Cancellation.never_after]
  cases hr : reply 0 with
  | silent => exact .inl ⟨⟨_, rfl⟩, .last (by simp [hr])⟩
  | dropped delay => exact .inl ⟨⟨_, rfl⟩, .last (by simp [hr])⟩
  | answer delay a =>
    simp only [Activity.pass_bind, Cancellation.never_after]
    rcases hl : r.led? a with _ | ⟨u, q⟩
    · refine .inl ⟨⟨_, rfl⟩, .last ?_⟩
      intro _ _ _ _ ha hq
      cases hr.symm.trans ha
      cases hl.symm.trans hq
    · cases left with
      | zero => exact .inl ⟨⟨_, rfl⟩, .last fun _ _ _ _ _ _ => .inl rfl⟩
      | succ more =>
        cases hu : u.isHttp with
        | true => exact .inr ⟨more, delay, a, u, q, rfl, rfl, hl, hu, by simp only [hu, if_true]⟩
        | false =>
          refine .inl ⟨⟨some (delay, .error (.scheme u.text)), ?_⟩, .last ?_⟩
          · simp only [hu]
            rfl
          · intro _ _ _ _ ha hq
            cases hr.symm.trans ha
            cases hl.symm.trans hq
            exact .inr hu

lemma follow_led (url : String) (left : Nat) (reply : Nat → Reply) (r : Request) :
    ∃ rs, (follow url left reply r .never).entries = r :: rs ∧ Led left reply r rs ∧
      ∀ t, ∃ front, (earlier (t + 1) (follow url left reply r .never).log).map (·.entry) =
        r :: front ∧ front <+: rs := by
  have hfirst : ∀ t, earlier (t + 1) [⟨0, r⟩] = [⟨0, r⟩] := fun t => earlier_eq_self (by simp)
  induction left using Nat.strongRecOn generalizing reply r with
  | ind left ih =>
    rcases follow_cases url left reply r with
      ⟨⟨ending, hf⟩, hl⟩ | ⟨more, d, a, u, q, rfl, ha, hr, hu, hf⟩
    · refine ⟨[], by rw [hf]; rfl, hl, fun t => ⟨[], ?_, List.prefix_rfl⟩⟩
      rw [hf, hfirst]
      rfl
    · obtain ⟨rs, hrs, hl, hfront⟩ := ih more (Nat.lt_succ_self more) (fun k => reply (k + 1)) q
        fun t => earlier_eq_self (by simp)
      refine ⟨q :: rs, ?_, .onward ha hr hu hl, fun t => ?_⟩
      · rw [hf, Run.entries_after, Run.entries_later, hrs]
        rfl
      · rw [hf, Run.log_after, earlier_append, hfirst, Run.log_later, earlier_later, List.map_append,
          entries_later_map]
        by_cases ht : d ≤ t
        · obtain ⟨front, hq, hp⟩ := hfront (t - d)
          rw [Nat.sub_add_comm ht, hq]
          exact ⟨q :: front, rfl, List.cons_prefix_cons.mpr ⟨rfl, hp⟩⟩
        · have hnone : t + 1 - d = 0 := by omega
          rw [hnone, earlier_eq_nil fun e _ => Nat.zero_le _]
          exact ⟨[], rfl, List.nil_prefix⟩

/-- What a host sees of a call: nothing, or the request of the call and then those that its answers
lead to. Only a probe may be given up before the last of them. -/
inductive Made (c : Client) (net : Network) (n : Nat) (k : Endpoint × Body) : List Request → Prop
  | unreached : c.isReached net k.1 = false → Made c net n k []
  | reached {reply : Endpoint → Nat → Nat → Reply} {u : Url} {rs front : List Request} :
      net = .host reply → c.target k.1 = .ok u →
      Led greatestRedirects (reply k.1 n) (request k.1 u k.2) rs → front <+: rs →
      (k.1 ≠ .state → front = rs) → Made c net n k (request k.1 u k.2 :: front)

lemma requests_made (c : Client) (net : Network) (n : Nat) (k : Endpoint × Body) (wait : Nat) :
    Made c net n k (c.requests net n k.1 k.2 wait) := by
  obtain ⟨e, body⟩ := k
  have hstate : c.requests net n .state body wait = (earlier (min c.probeTimeout wait + 1)
      (c.exchange net .state n body).log).map (·.entry) := by
    simp only [requests, earlier, Nat.lt_succ_iff]
  have hwhole : e ≠ .state → c.requests net n e body wait = (c.exchange net e n body).entries := by
    intro he
    cases e with
    | state => exact absurd rfl he
    | _ => simp only [requests]
  cases hreached : c.isReached net e with
  | false =>
    obtain ⟨f, hf⟩ := exchange_unreached hreached n body
    have hnil : c.requests net n e body wait = [] := by
      by_cases he : e = .state
      · subst he
        rw [hstate, hf]
        rfl
      · rw [hwhole he, hf]
        rfl
    rw [hnil]
    exact .unreached hreached
  | true =>
    obtain ⟨reply, u, rfl, hu⟩ := exists_target hreached
    have hx : c.exchange (.host reply) e n body =
        follow u.text greatestRedirects (reply e n) (request e u body) .never := by
      simp only [exchange, hu, Activity.run]
    obtain ⟨rs, hrs, hl, hfront⟩ :=
      follow_led u.text greatestRedirects (reply e n) (request e u body)
    by_cases he : e = .state
    · subst he
      obtain ⟨front, hf, hp⟩ := hfront (min c.probeTimeout wait)
      rw [hstate, hx, hf]
      exact .reached rfl hu hl hp fun hs => absurd rfl hs
    · rw [hwhole he, hx, hrs]
      exact .reached rfl hu hl List.prefix_rfl fun _ => rfl

/-- The calls with their numbers among those of their kind. -/
def numbered : (before : List Endpoint) → List (Endpoint × Body) → List (Nat × Endpoint × Body)
  | _, [] => []
  | before, k :: ks => (before.count k.1, k) :: numbered (k.1 :: before) ks

lemma traffic_made (c : Client) (net : Network) (last : Nat) (before : List Endpoint)
    (calls : List (Stamped (Endpoint × Body))) :
    List.Forall₂ (fun a => Made c net a.1 a.2) (numbered before (calls.map (·.entry)))
      (c.traffic net last before calls) := by
  induction calls generalizing before with
  | nil => exact .nil
  | cons call calls ih => exact .cons (requests_made ..) (ih _)

lemma made_each {before : List Endpoint} {ks : List (Endpoint × Body)} {rss : List (List Request)}
    (h : List.Forall₂ (fun a => Made c net a.1 a.2) (numbered before ks) rss) :
    List.Forall₂ (fun k rs => ∃ n, Made c net n k rs) ks rss := by
  induction ks generalizing before rss with
  | nil =>
    cases h
    exact .nil
  | cons k ks ih =>
    cases h with
    | cons hm h => exact .cons ⟨_, hm⟩ (ih h)

variable {k : Endpoint × Body} {rs : List Request}

lemma Made.posts (h : Made c net n k rs) {q : Request} (hq : q ∈ rs) (hm : q.method = "POST") :
    k.1 = .upload ∨ k.1 = .rollback := by
  have hpost : k.1.method = "POST" := by
    cases h with
    | unreached => cases hq
    | reached _ _ hl hf _ =>
      rcases List.mem_cons.mp hq with rfl | hq
      · exact hm
      · exact hl.method q (hf.subset hq) hm
  cases he : k.1 with
  | upload => exact .inl rfl
  | rollback => exact .inr rfl
  | info =>
    rw [he] at hpost
    exact absurd hpost (by decide)
  | state =>
    rw [he] at hpost
    exact absurd hpost (by decide)

lemma Made.length_le (h : Made c net n k rs) : rs.length ≤ greatestRedirects + 1 := by
  cases h with
  | unreached => exact Nat.zero_le _
  | reached _ _ hl hf _ => exact Nat.succ_le_succ (hf.length_le.trans hl.length_le)

lemma made_of_mem {ks : List (Endpoint × Body)} {rss : List (List Request)}
    (h : List.Forall₂ (fun k rs => ∃ n, Made c net n k rs) ks rss) (hrs : rs ∈ rss) :
    ∃ k ∈ ks, ∃ n, Made c net n k rs := by
  induction h with
  | nil => cases hrs
  | cons hm _ ih =>
    rcases List.mem_cons.mp hrs with rfl | hrs
    · exact ⟨_, List.mem_cons_self, hm⟩
    · obtain ⟨k, hk, hm⟩ := ih hrs
      exact ⟨k, List.mem_cons_of_mem _ hk, hm⟩

lemma made_posts {ks : List (Endpoint × Body)} {rss : List (List Request)}
    (h : List.Forall₂ (fun k rs => ∃ n, Made c net n k rs) ks rss) :
    rss.countP hasPost ≤ (ks.map Prod.fst).countP Endpoint.isChange := by
  induction h with
  | nil => exact Nat.le_refl 0
  | @cons k rs _ _ hm _ ih =>
    have hhead : hasPost rs = true → k.1.isChange = true := by
      intro hp
      obtain ⟨q, hq, hpost⟩ := List.any_eq_true.mp hp
      obtain ⟨n, hm⟩ := hm
      rcases hm.posts hq (beq_iff_eq.mp hpost) with he | he <;> rw [he, Endpoint.isChange]
    rw [List.map_cons, List.countP_cons, List.countP_cons]
    refine Nat.add_le_add ih ?_
    by_cases hp : hasPost rs = true
    · rw [if_pos hp, if_pos (hhead hp)]
    · rw [if_neg hp]
      exact Nat.zero_le _

def Asks (c : Client) (k : Endpoint × Body) (r : Request) : Prop :=
  ∃ u, c.target k.1 = .ok u ∧ r = request k.1 u k.2

lemma made_direct (hd : Direct net) {ks : List (Endpoint × Body)} {rss : List (List Request)}
    (h : List.Forall₂ (fun k rs => ∃ n, Made c net n k rs) ks rss) :
    List.Forall₂ c.Asks (ks.filter fun k => c.isReached net k.1) rss.flatten := by
  induction h with
  | nil => exact .nil
  | @cons k _ _ _ hm _ ih =>
    obtain ⟨n, hm⟩ := hm
    cases hm with
    | unreached hr =>
      rw [List.filter_cons, if_neg (by simp [hr])]
      exact ih
    | @reached reply u rs front hnet hu hl hf _ =>
      obtain rfl := hl.direct fun k delay a => hd reply hnet _ n k delay a
      obtain rfl := List.prefix_nil.mp hf
      have hr : c.isReached net k.1 = true := by
        rw [hnet, isReached, hu]
        rfl
      rw [List.filter_cons, if_pos hr]
      exact .cons ⟨u, hu, rfl⟩ ih

lemma fetch_iff {delay : Nat} {body : String} :
    c.fetch net e n = some (delay, .ok body) ↔
      ∃ a, (c.exchange net e n .empty).ending = some (delay, .ok a) ∧ isSuccess a.status = true ∧
        a.cut = false ∧ String.ofList (Text.Utf8.decodeLossy a.body) = body := by
  have hfetched : ∀ r, c.fetched e r = .ok body ↔ ∃ a, r = .ok a ∧ isSuccess a.status = true ∧
      a.cut = false ∧ String.ofList (Text.Utf8.decodeLossy a.body) = body := by
    intro r
    cases r with
    | error f => simp [fetched]
    | ok a => cases hs : isSuccess a.status <;> cases hc : a.cut <;> simp [fetched, Answer.text, *]
  simp only [fetch, Option.map_eq_some_iff, Prod.exists, Prod.mk.injEq, hfetched]
  constructor
  · rintro ⟨_, _, hx, rfl, a, rfl, ha⟩
    exact ⟨a, hx, ha⟩
  · rintro ⟨a, hx, ha⟩
    exact ⟨delay, _, hx, rfl, a, rfl, ha⟩

lemma decoded_iff {α : Type} {context : String} {decode : List Char → Except Json.Fault α}
    {r : Except Workflow.Causes String} {a : α} :
    decoded context decode r = .ok a ↔ ∃ body, r = .ok body ∧ decode body.toList = .ok a := by
  cases r with
  | error causes => simp [decoded]
  | ok body => cases hd : decode body.toList <;> simp [decoded, hd, Except.mapError]

lemma info_iff {i : DeviceInfo} :
    (∃ delay, c.info net n = some (delay, .ok i)) ↔
      ∃ text, c.Answers net .info n text ∧ DeviceInfo.decode text = .ok i := by
  have hinfo : ∀ delay, c.info net n = some (delay, .ok i) ↔ ∃ body : String,
      c.fetch net .info n = some (delay, .ok body) ∧ DeviceInfo.decode body.toList = .ok i := by
    intro delay
    simp only [info, Option.map_eq_some_iff, Prod.exists, Prod.mk.injEq, decoded_iff]
    constructor
    · rintro ⟨_, _, hf, rfl, body, rfl, hd⟩
      exact ⟨body, hf, hd⟩
    · rintro ⟨body, hf, hd⟩
      exact ⟨delay, _, hf, rfl, body, rfl, hd⟩
  simp only [hinfo, fetch_iff]
  constructor
  · rintro ⟨delay, _, ⟨a, hx, hs, hc, rfl⟩, hd⟩
    rw [String.toList_ofList] at hd
    exact ⟨_, ⟨delay, a, hx, hs, hc, rfl⟩, hd⟩
  · rintro ⟨_, ⟨delay, a, hx, hs, hc, rfl⟩, hd⟩
    exact ⟨delay, _, ⟨a, hx, hs, hc, rfl⟩, by rwa [String.toList_ofList]⟩

lemma probe_iff : (c.probe net n).isHealthy c.probeTimeout = true ↔ c.Healthy net n := by
  have hlate : ((c.stated ((c.target .state).bind fun u => .error (.timedOut u.text))).toBool) =
      false := by
    cases c.target .state <;> rfl
  have hstated : ∀ r, (c.stated r).toBool = true ↔ ∃ a, r = .ok a ∧ a.isError = false := by
    intro r
    cases r with
    | error f => simp [stated, Except.toBool]
    | ok a => cases ha : a.isError <;> simp [stated, Except.toBool, ha]
  simp only [probe, state, timely, Healthy]
  rcases (c.exchange net .state n .empty).ending with _ | ⟨delay, r⟩
  · simp [Reconnect.Probe.isHealthy, hlate]
  · by_cases hd : delay ≤ c.probeTimeout
    · simp [Reconnect.Probe.isHealthy, hd, hstated]
    · simp [Reconnect.Probe.isHealthy, hd, hlate]

@[simp] lemma device_info (c : Client) (net : Network) : (c.device net).info = c.info net := by
  simp only [device]

@[simp] lemma device_probe (c : Client) (net : Network) : (c.device net).probe = c.probe net := by
  simp only [device]

end Client

end FirmwareUpdate.Http
