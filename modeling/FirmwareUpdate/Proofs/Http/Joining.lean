import FirmwareUpdate.Http.Client
import FirmwareUpdate.Proofs.Settings
import FirmwareUpdate.Proofs.Text.Trim

/-! The URLs that a client asks for: the URL of the device and a path, with one slash between them.
A device whose URL ends after the scheme loses the slashes of the scheme too. -/

namespace FirmwareUpdate.Http

/-- A base and a path with one slash between them, whatever slashes they have there. -/
inductive Joined : List Char → List Char → List Char → Prop
  | intro {base rest : List Char} (m n : ℕ) (hb : base.getLast? ≠ some '/')
      (hr : rest.head? ≠ some '/') :
      Joined (base ++ List.replicate m '/') (List.replicate n '/' ++ rest) (base ++ '/' :: rest)

def slashes (n : ℕ) : String :=
  String.ofList (List.replicate n '/')

lemma slashes_toList (n : ℕ) : (slashes n).toList = List.replicate n '/' :=
  String.toList_ofList

lemma isSlash_of_mem_slashes {n : ℕ} : ∀ c ∈ (slashes n).toList, Client.isSlash c = true := by
  intro c hc
  rw [slashes_toList] at hc
  exact beq_iff_eq.mpr (List.eq_of_mem_replicate hc)

lemma slashes_eq {cs : List Char} (h : ∀ c ∈ cs, Client.isSlash c = true) :
    cs = (slashes cs.length).toList := by
  rw [slashes_toList]
  apply List.eq_replicate_of_mem
  intro c hc
  exact beq_iff_eq.mp (h c hc)

namespace Client

lemma new_slashes (url : String) (m timeout : ℕ) :
    new (url ++ slashes m) timeout = new url timeout := by
  rw [new, new, String.toList_append, Text.trimEnd_append_of_all isSlash_of_mem_slashes]

lemma url_slashes (c : Client) (n : ℕ) (path : String) : c.url (slashes n ++ path) = c.url path := by
  rw [url, url, String.toList_append, Text.dropWhile_append_of_all isSlash_of_mem_slashes]

lemma new_split (url : String) (timeout : ℕ) : ∃ m, url = (new url timeout).base ++ slashes m := by
  obtain ⟨back, hurl, hback⟩ := Text.trimEnd_split isSlash url.toList
  refine ⟨back.length, ?_⟩
  rw [← String.toList_inj, String.toList_append, ← slashes_eq hback, new, String.toList_ofList]
  exact hurl

lemma base_last (url : String) (timeout : ℕ) :
    (new url timeout).base.toList.getLast? ≠ some '/' := by
  intro h
  rw [new, String.toList_ofList] at h
  cases Text.trimEnd_last h

lemma new_base_self (url : String) (timeout : ℕ) :
    new (new url timeout).base timeout = new url timeout := by
  obtain ⟨m, hm⟩ := new_split url timeout
  calc
    new (new url timeout).base timeout = new ((new url timeout).base ++ slashes m) timeout :=
      (new_slashes _ m timeout).symm
    _ = new url timeout := by rw [← hm]

lemma url_split (c : Client) (path : String) : ∃ n rest, path = slashes n ++ rest ∧
    rest.toList.head? ≠ some '/' ∧ c.url path = c.base ++ "/" ++ rest := by
  obtain ⟨front, hpath, hfront⟩ := Text.dropWhile_split isSlash path.toList
  refine ⟨front.length, String.ofList (path.toList.dropWhile isSlash), ?_, ?_, ?_⟩
  · rw [← String.toList_inj, String.toList_append, ← slashes_eq hfront, String.toList_ofList]
    exact hpath
  · intro h
    rw [String.toList_ofList] at h
    cases Text.dropWhile_head h
  · rw [url, ← String.toList_inj]
    simp

/-- Slashes at the end of a URL and at the beginning of a path make no difference to what is asked
for. A client keeps the URL without them, and writes one slash between it and the rest of the path. -/
theorem slashes_immaterial (url : String) (timeout : ℕ) :
    let c := new url timeout
    (∀ m n timeout' path, (new (url ++ slashes m) timeout').url (slashes n ++ path) = c.url path) ∧
    (∃ m, url = c.base ++ slashes m) ∧ c.base.toList.getLast? ≠ some '/' ∧
    new c.base timeout = c ∧
    ∀ path, ∃ n rest, path = slashes n ++ rest ∧ rest.toList.head? ≠ some '/' ∧
      c.url path = c.base ++ "/" ++ rest := by
  intro c
  refine ⟨?_, new_split url timeout, base_last url timeout, new_base_self url timeout, c.url_split⟩
  intro m n timeout' path
  rw [new_slashes, url_slashes]
  rfl

end Client

lemma new_url_joined (url : String) (timeout : Nat) (path : String) :
    Joined url.toList path.toList ((Client.new url timeout).url path).toList := by
  obtain ⟨m, hurl⟩ := Client.new_split url timeout
  obtain ⟨n, rest, hpath, hrest, hasked⟩ := (Client.new url timeout).url_split path
  have h := Joined.intro m n (Client.base_last url timeout) hrest
  have hurl' := congrArg String.toList hurl
  have hpath' := congrArg String.toList hpath
  have hasked' := congrArg String.toList hasked
  rw [String.toList_append, slashes_toList] at hurl' hpath'
  rw [String.toList_append, String.toList_append, List.append_assoc] at hasked'
  rw [← hurl', ← hpath'] at h
  rw [hasked']
  exact h

namespace Joined

variable {url path asked front tail : List Char} {c : Char}

lemma keeps (h : Joined (front ++ tail) path asked) (hc : c ∈ tail) (hs : c ≠ '/') :
    front <+: asked := by
  generalize hu : front ++ tail = url at h
  obtain @⟨base, rest, m, n, hb, hr⟩ := h
  rcases List.append_eq_append_iff.mp hu with ⟨l, rfl, _⟩ | ⟨l, rfl, hl⟩
  · exact ⟨l ++ '/' :: rest, by rw [List.append_assoc]⟩
  · -- the tail would be among the slashes that were taken off
    have hm : c ∈ List.replicate m '/' := by
      rw [hl]
      exact List.mem_append_right l hc
    exact absurd (List.eq_of_mem_replicate hm) hs

lemma eq_nil_of_slashes {base l : List Char} (h : (base ++ l).getLast? ≠ some '/')
    (hl : ∀ c ∈ l, c = '/') : l = [] := by
  rcases l.eq_nil_or_concat' with rfl | ⟨l, c, rfl⟩
  · rfl
  · obtain rfl := hl c (by simp)
    rw [← List.append_assoc, List.getLast?_concat] at h
    exact absurd rfl h

lemma loses (h : Joined (front ++ tail) path asked) (hf : front.getLast? ≠ some '/')
    (ht : ∀ c ∈ tail, c = '/') : ¬ front ++ ['/', '/'] <+: asked := by
  generalize hu : front ++ tail = url at h
  obtain @⟨base, rest, m, n, hb, hr⟩ := h
  have heq : base = front := by
    rcases List.append_eq_append_iff.mp hu with ⟨l, rfl, htail⟩ | ⟨l, rfl, htail⟩
    · have hl : l = [] := by
        apply eq_nil_of_slashes hb
        intro c hc
        apply ht
        rw [htail]
        exact List.mem_append_left _ hc
      rw [hl, List.append_nil]
    · have hl : l = [] := by
        apply eq_nil_of_slashes hf
        intro c hc
        have hm : c ∈ List.replicate m '/' := by
          rw [htail]
          exact List.mem_append_left _ hc
        exact List.eq_of_mem_replicate hm
      rw [hl, List.append_nil]
  subst heq
  rintro ⟨l, hl⟩
  rw [List.append_assoc, List.append_cancel_left_eq] at hl
  obtain ⟨-, hl⟩ := List.cons.inj hl
  rw [← hl] at hr
  exact hr rfl

lemma keeps_iff (h : Joined (front ++ '/' :: '/' :: tail) path asked)
    (hf : front.getLast? ≠ some '/') :
    front ++ ['/', '/'] <+: asked ↔ ∃ c ∈ tail, c ≠ '/' := by
  constructor
  · intro hp
    by_contra hn
    push Not at hn
    refine h.loses hf ?_ hp
    simpa using hn
  · rintro ⟨c, hc, hs⟩
    have htail : front ++ '/' :: '/' :: tail = front ++ ['/', '/'] ++ tail := by
      rw [List.append_assoc, List.cons_append, List.cons_append, List.nil_append]
    rw [htail] at h
    exact h.keeps hc hs

end Joined

end Http

namespace Settings

open Http

def redirect (s : Settings) (url : String) : Settings :=
  (s.setUrl url).toOption.getD s

def redirected (s : Settings) (urls : List String) : Settings :=
  urls.foldl redirect s

def afterScheme (scheme url : List Char) : List Char :=
  url.drop scheme.length

lemma redirect_isDeviceUrl {s : Settings} (h : isDeviceUrl s.url = true) (url : String) :
    isDeviceUrl (s.redirect url).url = true := by
  rw [redirect]
  cases hu : s.setUrl url with
  | error e => exact h
  | ok t => exact (setUrl_ok hu).1

lemma redirected_isDeviceUrl {s : Settings} (h : isDeviceUrl s.url = true) (urls : List String) :
    isDeviceUrl (s.redirected urls).url = true := by
  induction urls generalizing s with
  | nil => exact h
  | cons url urls ih =>
    apply ih
    exact redirect_isDeviceUrl h url

theorem urls_joined {vars : Variables} {s : Settings} (h : load vars = .ok s) (urls : List String)
    (path : String) :
    let t := s.redirected urls
    let asked := (t.client.url path).toList
    Joined t.url.toList path.toList asked ∧ isDeviceUrl t.url = true ∧
    ∀ scheme ∈ [httpScheme, httpsScheme], scheme <+: t.url.toList →
      (scheme <+: asked ↔ ∃ c ∈ afterScheme scheme t.url.toList, c ≠ '/') := by
  intro t asked
  have hj : Joined t.url.toList path.toList asked := new_url_joined t.url t.reconnect.timeout path
  refine ⟨hj, redirected_isDeviceUrl (load_ok h).1 urls, ?_⟩
  have hscheme : ∀ scheme ∈ [httpScheme, httpsScheme],
      ∃ front, scheme = front ++ ['/', '/'] ∧ front.getLast? ≠ some '/' := by
    intro scheme hm
    simp only [List.mem_cons, List.not_mem_nil, or_false] at hm
    rcases hm with rfl | rfl
    · exact ⟨['h', 't', 't', 'p', ':'], rfl, by decide⟩
    · exact ⟨['h', 't', 't', 'p', 's', ':'], rfl, by decide⟩
  intro scheme hm hp
  obtain ⟨front, rfl, hf⟩ := hscheme scheme hm
  obtain ⟨tail, htail⟩ := hp
  have hafter : afterScheme (front ++ ['/', '/']) t.url.toList = tail := by
    rw [afterScheme, ← htail, List.drop_left]
  rw [hafter]
  rw [← htail, List.append_assoc] at hj
  exact hj.keeps_iff hf

theorem urls_joined_slashes : ∃ s, load (fun _ => none) = .ok s ∧
    (s.redirected ["192.168.4.2", "https://device//"]).url = "https://device//" ∧
    Joined "https://device//".toList "//api/ota/info".toList
      "https://device/api/ota/info".toList ∧
    httpsScheme <+: "https://device/api/ota/info".toList := by
  have hload : load (fun _ => none) = .ok ⟨defaultUrl, 5000, .standard, .standard, 5⟩ := rfl
  obtain ⟨hj, -, hs⟩ := urls_joined hload ["192.168.4.2", "https://device//"] "//api/ota/info"
  exact ⟨_, hload, rfl, hj, (hs httpsScheme (by simp) (by decide)).mpr ⟨'d', by decide, by decide⟩⟩

def schemeOnly : Variables :=
  fun name => if name = "OTA_DEVICE_URL" then some "http://" else none

theorem scheme_lost : ∃ s, load schemeOnly = .ok s ∧ s.url = "http://" ∧
    s.client.url "/api/ota/upload" = "http:/api/ota/upload" ∧
    isDeviceUrl (s.client.url "/api/ota/upload") = false ∧
    (s.client.target .upload).toOption.map Url.text = some "http://api/ota/upload" := by
  refine ⟨_, rfl, rfl, ?_, ?_, ?_⟩
  · decide +kernel
  · decide +kernel
  · decide +kernel

end Settings

end FirmwareUpdate
