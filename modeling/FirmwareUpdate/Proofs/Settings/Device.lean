import FirmwareUpdate.Proofs.Settings
import Mathlib.Tactic

/-! The device among the settings. Its variable is read first, and nothing else that is read depends
on it. -/

namespace FirmwareUpdate.Settings

variable {vars others : Variables}

def deviceName : String := "OTA_DEVICE_URL"

def Accepted (named : Option String) : Prop :=
  ∀ url ∈ named, isDeviceUrl url = true

def loadRest (vars : Variables) (url : String) : Except Error Settings := do
  let connectTimeout ← numberOr vars "OTA_CONNECT_TIMEOUT_MS" word 5000
  let greatest ← numberOr vars "OTA_MAX_FIRMWARE_BYTES" word Firmware.Policy.standard.greatest
  let interval ← loadInterval vars
  let maxAttempts ←
    numberOr vars "OTA_POLL_MAX_ATTEMPTS" halfWord Reconnect.Policy.standard.maxAttempts
  let timeout ← numberOr vars "OTA_PROBE_TIMEOUT_MS" word Reconnect.Policy.standard.timeout
  let countdown ← numberOr vars "OTA_RESTART_COUNTDOWN_SECS" halfWord 5
  return {
    url
    connectTimeout
    firmware := ⟨(vars "OTA_FIRMWARE_EXTENSION").getD Firmware.Policy.standard.extension, greatest⟩
    reconnect := ⟨interval, maxAttempts, timeout⟩
    countdown }

lemma load_eq (vars : Variables) : load vars = loadUrl vars >>= loadRest vars := rfl

lemma numberOr_congr {name : String} {greatest default : ℕ} (h : vars name = others name) :
    numberOr vars name greatest default = numberOr others name greatest default := by
  rw [numberOr, numberOr, h]

lemma loadRest_congr (h : ∀ name, name ≠ deviceName → vars name = others name) (url : String) :
    loadRest vars url = loadRest others url := by
  have hinterval : loadInterval vars = loadInterval others := by
    rw [loadInterval, loadInterval, numberOr_congr (h pollInterval (by decide))]
  rw [loadRest, loadRest, hinterval, numberOr_congr (h "OTA_CONNECT_TIMEOUT_MS" (by decide)),
    numberOr_congr (h "OTA_MAX_FIRMWARE_BYTES" (by decide)),
    numberOr_congr (h "OTA_POLL_MAX_ATTEMPTS" (by decide)),
    numberOr_congr (h "OTA_PROBE_TIMEOUT_MS" (by decide)),
    numberOr_congr (h "OTA_RESTART_COUNTDOWN_SECS" (by decide)),
    h "OTA_FIRMWARE_EXTENSION" (by decide)]

lemma loadRest_device (vars : Variables) (url other : String) :
    (fun s : Settings => { s with url }) <$> loadRest vars other = loadRest vars url := by
  simp only [loadRest, map_bind, map_pure]

lemma loadUrl_accepted (h : Accepted (vars deviceName)) :
    loadUrl vars = .ok ((vars deviceName).getD defaultUrl) := by
  rw [loadUrl, if_pos]
  · rfl
  · cases hs : vars "OTA_DEVICE_URL" with
    | none => exact (by decide : isDeviceUrl defaultUrl = true)
    | some url => exact h url hs

lemma load_refused {url : String} (hset : vars deviceName = some url)
    (h : isDeviceUrl url = false) : load vars = .error (.url url) := by
  have hurl : loadUrl vars = .error (.url url) := by
    rw [loadUrl, show vars "OTA_DEVICE_URL" = some url from hset, Option.getD_some, h]
    rfl
  rw [load_eq, hurl]
  rfl

lemma load_device (h : Accepted (vars deviceName)) (url : String) :
    (fun s : Settings => { s with url }) <$> load vars = loadRest vars url := by
  rw [load_eq, loadUrl_accepted h]
  exact loadRest_device vars url _

lemma load_named {url : String} (hset : vars deviceName = some url) (h : isDeviceUrl url = true) :
    load vars = loadRest vars url := by
  have hurl : loadUrl vars = .ok url := by
    rw [loadUrl_accepted, hset, Option.getD_some]
    rw [hset]
    rintro _ ⟨⟩
    exact h
  rw [load_eq, hurl]
  rfl

end FirmwareUpdate.Settings
