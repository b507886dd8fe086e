import FirmwareUpdate.Proofs.Except
import FirmwareUpdate.Settings

/-! What settings that are accepted have in common, whatever variables they are read from. -/

namespace FirmwareUpdate.Settings

variable {vars : Variables}

lemma loadUrl_ok {url : String} (h : loadUrl vars = .ok url) :
    isDeviceUrl url = true := by
  simp only [loadUrl] at h
  split at h
  · next hd =>
    cases h
    exact hd
  · cases h

lemma loadInterval_ok {n : Nat} (h : loadInterval vars = .ok n) :
    0 < n := by
  obtain ⟨m, _, h⟩ := of_bind_ok h
  split at h
  · cases h
  · next hm =>
    cases h
    exact Nat.pos_of_ne_zero hm

lemma load_ok {s : Settings} (h : load vars = .ok s) :
    isDeviceUrl s.url = true ∧ 0 < s.reconnect.interval := by
  obtain ⟨url, hurl, h⟩ := of_bind_ok h
  obtain ⟨_, _, h⟩ := of_bind_ok h
  obtain ⟨_, _, h⟩ := of_bind_ok h
  obtain ⟨interval, hi, h⟩ := of_bind_ok h
  obtain ⟨_, _, h⟩ := of_bind_ok h
  obtain ⟨_, _, h⟩ := of_bind_ok h
  obtain ⟨_, _, h⟩ := of_bind_ok h
  cases h
  exact ⟨loadUrl_ok hurl, loadInterval_ok hi⟩

lemma setUrl_ok {s t : Settings} {url : String} (h : s.setUrl url = .ok t) :
    isDeviceUrl t.url = true ∧ t.reconnect = s.reconnect := by
  simp only [setUrl] at h
  split at h
  · next hu =>
    cases h
    exact ⟨hu, rfl⟩
  · cases h

end FirmwareUpdate.Settings
