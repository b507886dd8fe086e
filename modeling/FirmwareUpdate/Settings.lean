import FirmwareUpdate.Workflow.Run

/-! Settings read from named variables; what is not set has a default. The first variable that is
wrong is the one an error names. -/

namespace FirmwareUpdate

structure Settings where
  url : String
  connectTimeout : Nat
  firmware : Firmware.Policy
  reconnect : Reconnect.Policy
  countdown : Nat

namespace Settings

inductive NumberError
  | empty
  | notDigit
  | tooLarge
  deriving DecidableEq

def NumberError.message : NumberError → String
  | .empty => "cannot parse integer from empty string"
  | .notDigit => "invalid digit found in string"
  | .tooLarge => "number too large to fit in target type"

inductive Error
  | url (got : String)
  | number (name : String) (cause : NumberError)
  | noInterval

def schemeMessage (got : String) : String :=
  s!"expected http:// or https:// url but got {got}"

def pollInterval : String := "OTA_POLL_INTERVAL_MS"

def Error.causes : Error → List String
  | .url got => ["failed to parse OTA_DEVICE_URL", schemeMessage got]
  | .number name cause => [s!"failed to parse {name}: invalid format", cause.message]
  | .noInterval => [s!"failed to parse {pollInterval}: must not be 0"]

def readDigits (greatest n : Nat) : List Char → Except NumberError Nat
  | [] => .ok n
  | c :: cs =>
      if c.isDigit then
        let m := n * 10 + (c.toNat - 48)
        if m ≤ greatest then readDigits greatest m cs else .error .tooLarge
      else .error .notDigit

def readNumber (greatest : Nat) (s : String) : Except NumberError Nat :=
  match Text.trim s.toList with
  | [] => .error .empty
  | ['+'] => .error .notDigit
  | '+' :: cs => readDigits greatest 0 cs
  | cs => readDigits greatest 0 cs

abbrev Variables := String → Option String

def names : List String :=
  ["OTA_DEVICE_URL", "OTA_CONNECT_TIMEOUT_MS", "OTA_FIRMWARE_EXTENSION",
    "OTA_MAX_FIRMWARE_BYTES", "OTA_POLL_INTERVAL_MS", "OTA_POLL_MAX_ATTEMPTS",
    "OTA_PROBE_TIMEOUT_MS", "OTA_RESTART_COUNTDOWN_SECS"]

def word : Nat := 0xFFFFFFFFFFFFFFFF

def halfWord : Nat := 0xFFFFFFFF

def numberOr (vars : Variables) (name : String) (greatest default : Nat) : Except Error Nat :=
  match vars name with
  | none => .ok default
  | some s => (readNumber greatest s).mapError (.number name)

def httpScheme : List Char := ['h', 't', 't', 'p', ':', '/', '/']

def httpsScheme : List Char := ['h', 't', 't', 'p', 's', ':', '/', '/']

def isDeviceUrl (url : String) : Bool :=
  httpScheme.isPrefixOf url.toList || httpsScheme.isPrefixOf url.toList

def defaultUrl : String := "http://192.168.4.1"

def loadUrl (vars : Variables) : Except Error String :=
  let url := (vars "OTA_DEVICE_URL").getD defaultUrl
  if isDeviceUrl url then .ok url else .error (.url url)

def loadInterval (vars : Variables) : Except Error Nat := do
  let n ← numberOr vars pollInterval word Reconnect.Policy.standard.interval
  if n = 0 then .error .noInterval else .ok n

def load (vars : Variables) : Except Error Settings := do
  let url ← loadUrl vars
  let connectTimeout ← numberOr vars "OTA_CONNECT_TIMEOUT_MS" word 5000
  let greatest ← numberOr vars "OTA_MAX_FIRMWARE_BYTES" word Firmware.Policy.standard.greatest
  let interval ← loadInterval vars
  let maxAttempts ←
    numberOr vars "OTA_POLL_MAX_ATTEMPTS" halfWord Reconnect.Policy.standard.maxAttempts
  let timeout ← numberOr vars "OTA_PROBE_TIMEOUT_MS" word Reconnect.Policy.standard.timeout
  let countdown ← numberOr vars "OTA_RESTART_COUNTDOWN_SECS" halfWord 5
  return {
    url
    connectTimeout
    firmware := ⟨(vars "OTA_FIRMWARE_EXTENSION").getD Firmware.Policy.standard.extension, greatest⟩
    reconnect := ⟨interval, maxAttempts, timeout⟩
    countdown }

def setUrl (s : Settings) (url : String) : Except String Settings :=
  if isDeviceUrl url then .ok { s with url } else .error (schemeMessage url)

def workflow (s : Settings) : Workflow := ⟨s.firmware, s.reconnect, s.countdown⟩

end Settings

end FirmwareUpdate
