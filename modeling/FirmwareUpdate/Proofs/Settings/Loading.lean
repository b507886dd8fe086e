import FirmwareUpdate.Proofs.Settings
import FirmwareUpdate.Proofs.Settings.Number

/-! Which variables are accepted, and what is made of them. Every variable is checked on its own; the
first that does not pass is the one an error names. -/

namespace FirmwareUpdate.Settings

variable {vars : Variables} {α β : Type}

structure Check where
  name : String
  Allows : String → Prop

def Check.Passes (c : Check) (vars : Variables) : Prop :=
  ∀ s, vars c.name = some s → c.Allows s

def number (name : String) (bound : ℕ) : Check :=
  ⟨name, fun s => ∃ n, Spells s.toList n ∧ n < bound⟩

def urlCheck : Check :=
  ⟨"OTA_DEVICE_URL", fun s => httpScheme <+: s.toList ∨ httpsScheme <+: s.toList⟩

def intervalCheck : Check :=
  ⟨"OTA_POLL_INTERVAL_MS", fun s => ∃ n, Spells s.toList n ∧ n < 2 ^ 64 ∧ n ≠ 0⟩

def checks : List Check :=
  [urlCheck, number "OTA_CONNECT_TIMEOUT_MS" (2 ^ 64), number "OTA_MAX_FIRMWARE_BYTES" (2 ^ 64),
    intervalCheck, number "OTA_POLL_MAX_ATTEMPTS" (2 ^ 32), number "OTA_PROBE_TIMEOUT_MS" (2 ^ 64),
    number "OTA_RESTART_COUNTDOWN_SECS" (2 ^ 32)]

def Error.subject : Error → String
  | .url _ => "OTA_DEVICE_URL"
  | .number name _ => name
  | .noInterval => "OTA_POLL_INTERVAL_MS"

def complaints : List String :=
  ["", ": invalid format", ": must not be 0"]

lemma headline (e : Error) :
    ∃ complaint ∈ complaints,
      e.causes.head? = some ("failed to parse " ++ e.subject ++ complaint) := by
  cases e with
  | url got => exact ⟨"", by simp [complaints], rfl⟩
  | number name cause => exact ⟨": invalid format", by simp [complaints], rfl⟩
  | noInterval => exact ⟨": must not be 0", by simp [complaints], rfl⟩

def Blames (vars : Variables) (cs : List Check) (e : Error) : Prop :=
  ∃ before c after, cs = before ++ c :: after ∧ (∀ d ∈ before, d.Passes vars) ∧
    ¬ c.Passes vars ∧ e.subject = c.name

structure Screens (vars : Variables) (x : Except Error α) (cs : List Check) : Prop where
  passed : ∀ a, x = .ok a → ∀ c ∈ cs, c.Passes vars
  blamed : ∀ e, x = .error e → Blames vars cs e

namespace Screens

variable {x : Except Error α} {f : α → Except Error β} {c : Check} {cs : List Check}

lemma pure (a : α) : Screens vars (.ok a) [] where
  passed _ _ c hc := absurd hc List.not_mem_nil
  blamed e h := by cases h

lemma single (hok : ∀ a, x = .ok a → c.Passes vars)
    (herror : ∀ e, x = .error e → ¬ c.Passes vars ∧ e.subject = c.name) : Screens vars x [c] where
  passed a h d hd := by
    obtain rfl := List.mem_singleton.mp hd
    exact hok a h
  blamed e h := by
    obtain ⟨hc, hname⟩ := herror e h
    exact ⟨[], c, [], rfl, by simp, hc, hname⟩

lemma bind (hx : Screens vars x [c]) (hf : ∀ a, Screens vars (f a) cs) :
    Screens vars (x >>= f) (c :: cs) := by
  cases x with
  | error e =>
    obtain ⟨before, d, after, hsplit, hbefore, hd, hname⟩ := hx.blamed e rfl
    have hc : c = d := by
      cases before with
      | nil => exact (List.cons.inj hsplit).1
      | cons b before => simp at hsplit
    subst hc
    constructor
    · intro b h
      cases h
    · intro e' h
      cases h
      exact ⟨[], c, cs, rfl, by simp, hd, hname⟩
  | ok a =>
    have hc := hx.passed a rfl c (List.mem_singleton_self c)
    constructor
    · intro b h
      exact List.forall_mem_cons.mpr ⟨hc, (hf a).passed b h⟩
    · intro e h
      obtain ⟨before, d, after, rfl, hbefore, hd, hname⟩ := (hf a).blamed e h
      exact ⟨c :: before, d, after, rfl, List.forall_mem_cons.mpr ⟨hc, hbefore⟩, hd, hname⟩

lemma exists_iff (h : Screens vars x cs) : (∃ a, x = .ok a) ↔ ∀ c ∈ cs, c.Passes vars := by
  constructor
  · rintro ⟨a, ha⟩
    exact h.passed a ha
  · intro hall
    cases hx : x with
    | ok a => exact ⟨a, rfl⟩
    | error e =>
      obtain ⟨before, c, after, rfl, -, hc, -⟩ := h.blamed e hx
      exact absurd (hall c (by simp)) hc

end Screens

lemma isDeviceUrl_iff {url : String} :
    isDeviceUrl url = true ↔ httpScheme <+: url.toList ∨ httpsScheme <+: url.toList := by
  rw [isDeviceUrl, Bool.or_eq_true, List.isPrefixOf_iff_prefix, List.isPrefixOf_iff_prefix]

lemma loadUrl_screens : Screens vars (loadUrl vars) [urlCheck] := by
  apply Screens.single
  · intro url h s hs
    have hurl : loadUrl vars = if isDeviceUrl s then .ok s else .error (.url s) := by
      rw [loadUrl, show vars "OTA_DEVICE_URL" = some s from hs, Option.getD_some]
    rw [hurl] at h
    split_ifs at h with hd
    exact isDeviceUrl_iff.mp hd
  · intro e h
    rw [loadUrl] at h
    split_ifs at h with hd
    cases h
    refine ⟨fun hpasses => ?_, rfl⟩
    cases hs : vars "OTA_DEVICE_URL" with
    | none =>
      rw [hs] at hd
      exact hd (by decide)
    | some s =>
      rw [hs] at hd
      exact hd (isDeviceUrl_iff.mpr (hpasses s hs))

def Holds (vars : Variables) (name : String) (default n : ℕ) : Prop :=
  match vars name with
  | none => n = default
  | some s => Spells s.toList n

variable {name : String} {greatest default n : ℕ}

lemma numberOr_unset (h : vars name = none) : numberOr vars name greatest default = .ok default := by
  rw [numberOr, h]

lemma numberOr_set {s : String} (h : vars name = some s) :
    numberOr vars name greatest default = (readNumber greatest s).mapError (.number name) := by
  rw [numberOr, h]

lemma numberOr_spelled {s : String} (h : vars name = some s) :
    numberOr vars name greatest default = .ok n ↔ Spells s.toList n ∧ n ≤ greatest := by
  rw [numberOr_set h, ← readNumber_iff]
  cases readNumber greatest s with
  | error cause => exact iff_of_false (by rintro ⟨⟩) (by rintro ⟨⟩)
  | ok m => exact ⟨fun h => congrArg _ (Except.ok.inj h), fun h => congrArg _ (Except.ok.inj h)⟩

lemma numberOr_holds (h : numberOr vars name greatest default = .ok n) :
    Holds vars name default n ∧ (default ≤ greatest → n ≤ greatest) := by
  unfold Holds
  cases hs : vars name with
  | none =>
    rw [numberOr_unset hs] at h
    cases h
    exact ⟨rfl, id⟩
  | some s =>
    obtain ⟨hspells, hn⟩ := (numberOr_spelled hs).mp h
    exact ⟨hspells, fun _ => hn⟩

lemma Holds.unique {others : Variables} {m : ℕ} (hm : Holds vars name default m)
    (hn : Holds others name default n) (h : vars name = others name) : m = n := by
  unfold Holds at hm hn
  rw [h] at hm
  cases hs : others name with
  | none =>
    rw [hs] at hm hn
    exact hm.trans hn.symm
  | some s =>
    rw [hs] at hm hn
    exact hm.unique hn

lemma numberOr_error {e : Error} (h : numberOr vars name greatest default = .error e) :
    ∃ s, vars name = some s ∧ (¬ ∃ n, Spells s.toList n ∧ n ≤ greatest) ∧ e.subject = name := by
  cases hs : vars name with
  | none =>
    rw [numberOr_unset hs] at h
    cases h
  | some s =>
    refine ⟨s, rfl, ?_, ?_⟩
    · rintro ⟨n, hn⟩
      rw [(numberOr_spelled hs).mpr hn] at h
      cases h
    · rw [numberOr_set hs] at h
      cases hr : readNumber greatest s with
      | error cause =>
        rw [hr] at h
        cases h
        rfl
      | ok n =>
        rw [hr] at h
        cases h

lemma numberOr_screens (name : String) (greatest default : ℕ) :
    Screens vars (numberOr vars name greatest default) [number name (greatest + 1)] := by
  apply Screens.single
  · intro n h s hs
    obtain ⟨hspells, hn⟩ := (numberOr_spelled hs).mp h
    exact ⟨n, hspells, Nat.lt_succ_of_le hn⟩
  · intro e h
    obtain ⟨s, hs, hnone, hname⟩ := numberOr_error h
    refine ⟨fun hpasses => ?_, hname⟩
    obtain ⟨n, hspells, hn⟩ := hpasses s hs
    exact hnone ⟨n, hspells, Nat.le_of_lt_succ hn⟩

lemma loadInterval_eq : loadInterval vars =
    numberOr vars pollInterval word 500 >>= fun n => if n = 0 then .error .noInterval else .ok n :=
  rfl

lemma loadInterval_iff : loadInterval vars = .ok n ↔
    numberOr vars pollInterval word 500 = .ok n ∧ n ≠ 0 := by
  rw [loadInterval_eq]
  constructor
  · intro h
    obtain ⟨m, hm, h⟩ := of_bind_ok h
    split_ifs at h with h0
    cases h
    exact ⟨hm, h0⟩
  · rintro ⟨hn, h0⟩
    rw [hn]
    exact if_neg h0

lemma loadInterval_screens : Screens vars (loadInterval vars) [intervalCheck] := by
  apply Screens.single
  · intro n h s hs
    obtain ⟨hn, h0⟩ := loadInterval_iff.mp h
    obtain ⟨hspells, hle⟩ := (numberOr_spelled hs).mp hn
    exact ⟨n, hspells, Nat.lt_succ_of_le hle, h0⟩
  · intro e h
    cases hn : numberOr vars pollInterval word 500 with
    | error e' =>
      rw [loadInterval_eq, hn] at h
      cases h
      obtain ⟨s, hs, hnone, hname⟩ := numberOr_error hn
      refine ⟨fun hpasses => ?_, hname⟩
      obtain ⟨n, hspells, hlt, -⟩ := hpasses s hs
      exact hnone ⟨n, hspells, Nat.le_of_lt_succ hlt⟩
    | ok n =>
      have h0 : n = 0 := by
        by_contra h0
        rw [loadInterval_iff.mpr ⟨hn, h0⟩] at h
        cases h
      subst h0
      rw [loadInterval_eq, hn] at h
      cases h
      refine ⟨fun hpasses => ?_, rfl⟩
      cases hs : vars pollInterval with
      | none =>
        rw [numberOr_unset hs] at hn
        cases hn
      | some s =>
        obtain ⟨m, hspells, -, hm⟩ := hpasses s hs
        exact hm (hspells.unique ((numberOr_spelled hs).mp hn).1)

lemma load_screens (vars : Variables) : Screens vars (load vars) checks := by
  apply loadUrl_screens.bind
  intro url
  apply (numberOr_screens "OTA_CONNECT_TIMEOUT_MS" word 5000).bind
  intro connectTimeout
  apply (numberOr_screens "OTA_MAX_FIRMWARE_BYTES" word _).bind
  intro greatest
  apply loadInterval_screens.bind
  intro interval
  apply (numberOr_screens "OTA_POLL_MAX_ATTEMPTS" halfWord _).bind
  intro maxAttempts
  apply (numberOr_screens "OTA_PROBE_TIMEOUT_MS" word _).bind
  intro timeout
  apply (numberOr_screens "OTA_RESTART_COUNTDOWN_SECS" halfWord 5).bind
  intro countdown
  exact .pure _

lemma bind_of_ok {x : Except Error α} {a : α} (h : x = .ok a) (f : α → Except Error β) :
    (x >>= f) = f a := by
  rw [h]
  rfl

structure Loaded (vars : Variables) (s : Settings) : Prop where
  url : loadUrl vars = .ok s.url
  connectTimeout : numberOr vars "OTA_CONNECT_TIMEOUT_MS" word 5000 = .ok s.connectTimeout
  extension : s.firmware.extension = (vars "OTA_FIRMWARE_EXTENSION").getD ".bin"
  greatest : numberOr vars "OTA_MAX_FIRMWARE_BYTES" word 5242880 = .ok s.firmware.greatest
  interval : loadInterval vars = .ok s.reconnect.interval
  maxAttempts : numberOr vars "OTA_POLL_MAX_ATTEMPTS" halfWord 60 = .ok s.reconnect.maxAttempts
  timeout : numberOr vars "OTA_PROBE_TIMEOUT_MS" word 2000 = .ok s.reconnect.timeout
  countdown : numberOr vars "OTA_RESTART_COUNTDOWN_SECS" halfWord 5 = .ok s.countdown

lemma load_iff {s : Settings} : load vars = .ok s ↔ Loaded vars s := by
  constructor
  · intro h
    obtain ⟨url, hurl, h⟩ := of_bind_ok h
    obtain ⟨connectTimeout, hconnect, h⟩ := of_bind_ok h
    obtain ⟨greatest, hgreatest, h⟩ := of_bind_ok h
    obtain ⟨interval, hinterval, h⟩ := of_bind_ok h
    obtain ⟨maxAttempts, hmax, h⟩ := of_bind_ok h
    obtain ⟨timeout, htimeout, h⟩ := of_bind_ok h
    obtain ⟨countdown, hcountdown, h⟩ := of_bind_ok h
    cases h
    exact ⟨hurl, hconnect, rfl, hgreatest, hinterval, hmax, htimeout, hcountdown⟩
  · rintro ⟨hurl, hconnect, hextension, hgreatest, hinterval, hmax, htimeout, hcountdown⟩
    obtain ⟨url, connectTimeout, ⟨extension, greatest⟩, ⟨interval, maxAttempts, timeout⟩,
      countdown⟩ := s
    obtain rfl : extension = _ := hextension
    apply (bind_of_ok hurl _).trans
    apply (bind_of_ok hconnect _).trans
    apply (bind_of_ok hgreatest _).trans
    apply (bind_of_ok hinterval _).trans
    apply (bind_of_ok hmax _).trans
    apply (bind_of_ok htimeout _).trans
    exact bind_of_ok hcountdown _

structure Reflects (vars : Variables) (s : Settings) : Prop where
  url : s.url = (vars "OTA_DEVICE_URL").getD "http://192.168.4.1"
  connectTimeout : Holds vars "OTA_CONNECT_TIMEOUT_MS" 5000 s.connectTimeout
  extension : s.firmware.extension = (vars "OTA_FIRMWARE_EXTENSION").getD ".bin"
  greatest : Holds vars "OTA_MAX_FIRMWARE_BYTES" 5242880 s.firmware.greatest
  interval : Holds vars "OTA_POLL_INTERVAL_MS" 500 s.reconnect.interval
  maxAttempts : Holds vars "OTA_POLL_MAX_ATTEMPTS" 60 s.reconnect.maxAttempts
  timeout : Holds vars "OTA_PROBE_TIMEOUT_MS" 2000 s.reconnect.timeout
  countdown : Holds vars "OTA_RESTART_COUNTDOWN_SECS" 5 s.countdown

lemma loadUrl_eq {url : String} (h : loadUrl vars = .ok url) :
    url = (vars "OTA_DEVICE_URL").getD defaultUrl := by
  rw [loadUrl] at h
  split_ifs at h
  cases h
  rfl

lemma Loaded.reflects {s : Settings} (h : Loaded vars s) : Reflects vars s where
  url := loadUrl_eq h.url
  connectTimeout := (numberOr_holds h.connectTimeout).1
  extension := h.extension
  greatest := (numberOr_holds h.greatest).1
  interval := (numberOr_holds (loadInterval_iff.mp h.interval).1).1
  maxAttempts := (numberOr_holds h.maxAttempts).1
  timeout := (numberOr_holds h.timeout).1
  countdown := (numberOr_holds h.countdown).1

def columns : List (String × (Settings → String)) :=
  [("OTA_DEVICE_URL", fun s => s.url),
    ("OTA_CONNECT_TIMEOUT_MS", fun s => decimal s.connectTimeout),
    ("OTA_FIRMWARE_EXTENSION", fun s => s.firmware.extension),
    ("OTA_MAX_FIRMWARE_BYTES", fun s => decimal s.firmware.greatest),
    ("OTA_POLL_INTERVAL_MS", fun s => decimal s.reconnect.interval),
    ("OTA_POLL_MAX_ATTEMPTS", fun s => decimal s.reconnect.maxAttempts),
    ("OTA_PROBE_TIMEOUT_MS", fun s => decimal s.reconnect.timeout),
    ("OTA_RESTART_COUNTDOWN_SECS", fun s => decimal s.countdown)]

def toVariables (s : Settings) : Variables :=
  fun name => (columns.lookup name).map fun text => text s

lemma numberOr_written (h : vars name = some (decimal n)) (hn : n ≤ greatest) :
    numberOr vars name greatest default = .ok n :=
  (numberOr_spelled h).mpr ⟨decimal_spells n, hn⟩

lemma Loaded.toVariables {s : Settings} (h : Loaded vars s) : Loaded s.toVariables s where
  url := by
    change (if isDeviceUrl s.url then _ else _) = _
    rw [if_pos (loadUrl_ok h.url)]
    rfl
  connectTimeout := numberOr_written rfl ((numberOr_holds h.connectTimeout).2 (by decide))
  extension := rfl
  greatest := numberOr_written rfl ((numberOr_holds h.greatest).2 (by decide))
  interval := by
    obtain ⟨hn, h0⟩ := loadInterval_iff.mp h.interval
    exact loadInterval_iff.mpr ⟨numberOr_written rfl ((numberOr_holds hn).2 (by decide)), h0⟩
  maxAttempts := numberOr_written rfl ((numberOr_holds h.maxAttempts).2 (by decide))
  timeout := numberOr_written rfl ((numberOr_holds h.timeout).2 (by decide))
  countdown := numberOr_written rfl ((numberOr_holds h.countdown).2 (by decide))

lemma Reflects.column {others : Variables} {s t : Settings} (hs : Reflects vars s)
    (ht : Reflects others t) :
    ∀ c ∈ columns, vars c.1 = others c.1 → c.2 s = c.2 t := by
  simp only [columns, List.forall_mem_cons, List.not_mem_nil, false_implies, implies_true, and_true]
  refine ⟨?_, ?_, ?_, ?_, ?_, ?_, ?_, ?_⟩
  · intro h
    rw [hs.url, ht.url, h]
  · exact fun h => congrArg decimal (hs.connectTimeout.unique ht.connectTimeout h)
  · intro h
    rw [hs.extension, ht.extension, h]
  · exact fun h => congrArg decimal (hs.greatest.unique ht.greatest h)
  · exact fun h => congrArg decimal (hs.interval.unique ht.interval h)
  · exact fun h => congrArg decimal (hs.maxAttempts.unique ht.maxAttempts h)
  · exact fun h => congrArg decimal (hs.timeout.unique ht.timeout h)
  · exact fun h => congrArg decimal (hs.countdown.unique ht.countdown h)

lemma Reflects.toVariables {others : Variables} {s t : Settings} (hs : Reflects vars s)
    (ht : Reflects others t) (h : vars name = others name) :
    s.toVariables name = t.toVariables name := by
  rw [Settings.toVariables, Settings.toVariables]
  cases hl : columns.lookup name with
  | none => rfl
  | some text =>
    obtain ⟨front, back, hsplit, -⟩ := List.lookup_eq_some_iff.mp hl
    have hmem : (name, text) ∈ columns := by
      rw [hsplit]
      exact List.mem_append_right _ List.mem_cons_self
    exact congrArg some (hs.column ht _ hmem h)

/-- Exactly these variables are accepted, every field is read from its own, and an error names the
first that is not accepted. -/
theorem load_exact (vars : Variables) :
    ((∃ s, load vars = .ok s) ↔ ∀ c ∈ checks, c.Passes vars) ∧
    (∀ s, load vars = .ok s → Reflects vars s ∧ load s.toVariables = .ok s ∧
      ∀ others t, load others = .ok t →
        ∀ name, vars name = others name → s.toVariables name = t.toVariables name) ∧
    ∀ e, load vars = .error e → Blames vars checks e ∧ ∃ complaint ∈ complaints,
      e.causes.head? = some ("failed to parse " ++ e.subject ++ complaint) := by
  have hscreens := load_screens vars
  refine ⟨hscreens.exists_iff, ?_, ?_⟩
  · intro s h
    have hloaded := load_iff.mp h
    refine ⟨hloaded.reflects, load_iff.mpr hloaded.toVariables, ?_⟩
    intro others t ht name hname
    exact hloaded.reflects.toVariables (load_iff.mp ht).reflects hname
  · intro e h
    exact ⟨hscreens.blamed e h, headline e⟩

def padded : Variables := fun name =>
  if name = "OTA_DEVICE_URL" then some "https://d"
  else if name = "OTA_POLL_MAX_ATTEMPTS" then some "\u3000+004294967295\n"
  else none

def twiceWrong : Variables := fun name =>
  if name = "OTA_POLL_INTERVAL_MS" then some "+0"
  else if name = "OTA_RESTART_COUNTDOWN_SECS" then some "4294967296"
  else none

theorem load_exact_padded :
    (∃ s, load padded = .ok s ∧ s.reconnect.maxAttempts = 4294967295 ∧
      load s.toVariables = .ok s) ∧
    ∃ e, load twiceWrong = .error e ∧ e.subject = "OTA_POLL_INTERVAL_MS" ∧
      Blames twiceWrong checks e := by
  have hok : load padded =
      .ok ⟨"https://d", 5000, .standard, ⟨500, 4294967295, 2000⟩, 5⟩ := rfl
  have herror : load twiceWrong = .error .noInterval := rfl
  obtain ⟨-, hpadded, -⟩ := load_exact padded
  obtain ⟨-, -, hwrong⟩ := load_exact twiceWrong
  exact ⟨⟨_, hok, rfl, (hpadded _ hok).2.1⟩, _, herror, rfl, (hwrong _ herror).1⟩

end FirmwareUpdate.Settings
