import FirmwareUpdate.Proofs.CommandLine.Course
import FirmwareUpdate.Proofs.CommandLine.Flag
import FirmwareUpdate.Proofs.Settings.Device
import Mathlib.Logic.Function.Basic

/-! The device on the command line against the one in the environment. Where the environment may name a
device, the one on the command line stands in its place; but a variable that is refused is refused
before the command line is looked at. -/

namespace FirmwareUpdate.CommandLine

open Settings (Accepted deviceName isDeviceUrl loadRest schemeMessage)

def Surroundings.naming (x : Surroundings) (named : Option String) : Surroundings :=
  { x with environment := Function.update x.environment deviceName named }

def Options.unnamed (o : Options) : Options := { o with device := none }

def badConfiguration (causes : List String) : String :=
  Workflow.Causes.message ("failed to load configuration" :: causes)

variable {x : Surroundings} {o : Options} {c : Command} {args plain : List String}
  {named : Option String} {url : String}

lemma named_device (x : Surroundings) (named : Option String) :
    (x.naming named).environment deviceName = named := by
  simp only [Surroundings.naming, Function.update_self]

lemma naming_rest (x : Surroundings) (named : Option String) (url : String) :
    loadRest (x.naming named).environment url = loadRest x.environment url :=
  Settings.loadRest_congr (fun _ h => Function.update_of_ne h named x.environment) url

def settingsAt (x : Surroundings) (url : String) : Except String Settings :=
  (loadRest x.environment url).mapError fun e => badConfiguration e.causes

lemma settings_override (hdevice : o.device = some url) (hurl : isDeviceUrl url = true)
    (h : Accepted named) : settings (x.naming named) o = settingsAt x url := by
  have hnamed : Accepted ((x.naming named).environment deviceName) := by
    rw [named_device]
    exact h
  have hload := Settings.load_device hnamed url
  rw [naming_rest] at hload
  rw [settingsAt, ← hload]
  cases hs : Settings.load (x.naming named).environment with
  | error e =>
    simp only [settings, hs]
    rfl
  | ok s =>
    simp only [settings, hs, hdevice, Settings.setUrl, if_pos hurl]
    rfl

lemma settings_unnamed (hurl : isDeviceUrl url = true) :
    settings (x.naming (some url)) o.unnamed = settingsAt x url := by
  have hload := Settings.load_named (named_device x (some url)) hurl
  rw [naming_rest] at hload
  rw [settingsAt, ← hload]
  cases hs : Settings.load (x.naming (some url)).environment <;> simp only [settings, hs] <;> rfl

lemma settings_refused (h : isDeviceUrl url = false) :
    settings (x.naming (some url)) o =
      .error (badConfiguration ["failed to parse OTA_DEVICE_URL", schemeMessage url]) := by
  have hload := Settings.load_refused (named_device x (some url)) h
  simp only [settings, hload]
  rfl

def carryOut (x : Surroundings) (o : Options) (c : Command) : Except String Settings → Outcome
  | .error m => ⟨some 1, applicationError m, []⟩
  | .ok s => runCommand x o s c

lemma run_request (hargs : parse args = .ok (.run o c)) (x : Surroundings) :
    run x args = carryOut x o c (settings x o) := by
  rw [run, hargs]
  cases hs : settings x o <;> simp only [hs, carryOut]

lemma carryOut_named (x : Surroundings) (o : Options) (c : Command) (named : Option String)
    (r : Except String Settings) :
    carryOut (x.naming named) o c r = carryOut x o.unnamed c r := by
  cases r <;> rfl

lemma run_override (hargs : parse args = .ok (.run o c)) (hdevice : o.device = some url)
    (hurl : isDeviceUrl url = true) (h : Accepted named) :
    run (x.naming named) args = carryOut x o.unnamed c (settingsAt x url) := by
  rw [run_request hargs, settings_override hdevice hurl h, carryOut_named]

/-- A device on the command line stands in the place of one that is accepted in the environment, or of
none; one that is refused ends the run all the same. -/
theorem device_overrides (x : Surroundings) (hargs : parse args = .ok (.run o c))
    (hdevice : o.device = some url) (hurl : isDeviceUrl url = true) :
    (∀ u v, Accepted u → Accepted v → run (x.naming u) args = run (x.naming v) args) ∧
    (∀ u plain, Accepted u → parse plain = .ok (.run o.unnamed c) →
      run (x.naming u) args = run (x.naming (some url)) plain) ∧
    ∀ refused, isDeviceUrl refused = false → run (x.naming (some refused)) args =
      ⟨some 1, applicationError (badConfiguration ["failed to parse OTA_DEVICE_URL",
        schemeMessage refused]), []⟩ := by
  refine ⟨?_, ?_, ?_⟩
  · intro u v hu hv
    rw [run_override hargs hdevice hurl hu, run_override hargs hdevice hurl hv]
  · intro u plain hu hplain
    rw [run_override hargs hdevice hurl hu, run_request hplain, settings_unnamed hurl, carryOut_named]
    rfl
  · intro refused hrefused
    rw [run_request hargs, settings_refused hrefused]
    rfl

def hesitant : Surroundings where
  environment _ := none
  input := [0x6E, 0x0A]
  files := ⟨["home"], [(["fw.bin", "home"], .file ⟨#[1, 2, 3, 4]⟩)]⟩
  network := .unreachable

def atDevice : List String := ["--device", "http://192.168.4.2", "update", "fw.bin"]

theorem device_overrides_hesitant :
    run (hesitant.naming none) atDevice = run (hesitant.naming (some "https://device")) atDevice ∧
    run (hesitant.naming none) atDevice =
      run (hesitant.naming (some "http://192.168.4.2")) ["update", "fw.bin"] ∧
    run (hesitant.naming (some "192.168.4.1")) atDevice =
      ⟨some 1, applicationError ("failed to load configuration: failed to parse OTA_DEVICE_URL: " ++
        "expected http:// or https:// url but got 192.168.4.1"), []⟩ := by
  have hplain : parse ["update", "fw.bin"] = .ok (.run ⟨none, false⟩ (.update "fw.bin")) := rfl
  have hargs : parse atDevice = .ok (.run ⟨some "http://192.168.4.2", false⟩ (.update "fw.bin")) :=
    parse_flag rfl hplain rfl
  have hunset : Accepted none := nofun
  have hset : Accepted (some "https://device") := by
    rintro _ ⟨⟩
    rfl
  obtain ⟨hsame, hvariable, hrefused⟩ := device_overrides hesitant hargs rfl rfl
  refine ⟨hsame none _ hunset hset, hvariable none _ hunset hplain, ?_⟩
  rw [hrefused "192.168.4.1" rfl]
  rfl

theorem refused_despite_flag :
    parse atDevice = .ok (.run ⟨some "http://192.168.4.2", false⟩ (.update "fw.bin")) ∧
    isDeviceUrl "http://192.168.4.2" = true ∧
    (run (hesitant.naming none) atDevice).status = some 0 ∧
    (run (hesitant.naming (some "192.168.4.1")) atDevice).status = some 1 := by
  refine ⟨rfl, rfl, ?_, rfl⟩
  decide +kernel

end FirmwareUpdate.CommandLine
