import FirmwareUpdate.CommandLine.Arguments
import FirmwareUpdate.Http.Client
import FirmwareUpdate.Settings
import FirmwareUpdate.Terminal.Presenter

/-! One run of the command line tool: its output, the requests a host sees and its exit status.
Diagnostics go to the output with warnings and to the error stream with errors, next to the notices
they belong to. -/

namespace FirmwareUpdate.CommandLine

open Terminal Workflow

structure Surroundings where
  environment : Settings.Variables
  input : List UInt8
  files : Files
  network : Http.Network

structure Outcome where
  /-- No status while the run waits for ever. -/
  status : Option Nat
  output : Output
  /-- The requests that a host sees, one list for each call of the device. -/
  exchanges : List (List Http.Request)

def Outcome.requests (r : Outcome) : List Http.Request := r.exchanges.flatten

def versionText : String := "ota-ui 0.1.0"

def helpText : Topic → String
  | .program =>
      "Firmware update client for devices with an OTA web API\n\n" ++
      "Usage: ota-ui [OPTIONS] <COMMAND>\n\n" ++
      "Commands:\n" ++
      "  info      Show the firmware running on the device\n" ++
      "  update    Upload a firmware image and wait for the device to restart\n" ++
      "  rollback  Revert to the previous firmware and wait for the device to restart\n" ++
      "  help      Print this message or the help of the given subcommand(s)\n\n" ++
      "Options:\n" ++
      "  -d, --device <URL>  Device base URL, overrides OTA_DEVICE_URL\n" ++
      "  -y, --yes           Accept all confirmations without asking\n" ++
      "  -h, --help          Print help\n" ++
      "  -V, --version       Print version"
  | .info =>
      "Show the firmware running on the device\n\n" ++
      "Usage: ota-ui info\n\n" ++
      "Options:\n" ++
      "  -h, --help  Print help"
  | .update =>
      "Upload a firmware image and wait for the device to restart\n\n" ++
      "Usage: ota-ui update <FILE>\n\n" ++
      "Arguments:\n" ++
      "  <FILE>  \n\n" ++
      "Options:\n" ++
      "  -h, --help  Print help"
  | .rollback =>
      "Revert to the previous firmware and wait for the device to restart\n\n" ++
      "Usage: ota-ui rollback\n\n" ++
      "Options:\n" ++
      "  -h, --help  Print help"
  | .help =>
      "Print this message or the help of the given subcommand(s)\n\n" ++
      "Usage: ota-ui help [COMMAND]...\n\n" ++
      "Arguments:\n" ++
      "  [COMMAND]...  Print help for the subcommand(s)"

def diagnosticBefore : Notice → Output
  | .uploadFailed f =>
      if f.isCancelled then .none else .errorLine s!"firmware upload failed: {f.message}"
  | .rollbackRefused m => .errorLine s!"rollback rejected by device: {m}"
  | .infoFailed f => .errorLine (Notice.infoFailed f).message
  | .fileUnreadable f => .errorLine (Notice.fileUnreadable f).message
  | .rollbackFailed f => .errorLine (Notice.rollbackFailed f).message
  | _ => .none

def diagnosticAfter : Notice → Output
  | .rejected r => .line s!"firmware rejected: {r.message}"
  | _ => .none

def diagnosticOf : Event → Output
  | .timedOut attempts => .line s!"device did not come back after {attempts} attempts"
  | _ => .none

def unreadableText : String :=
  "failed to read confirmation: stream did not contain valid UTF-8"

def showDialog (yes : Bool) (input : List UInt8) (r : Confirmation.Request) : Output :=
  dialogOutput yes r ++
    match answer yes input with
    | .unreadable => .line unreadableText
    | _ => .none

def present (yes : Bool) (input : List UInt8) (p : Presenter) : Entry → Presenter × Output
  | .call _ => (p, .none)
  | .dialog r _ => (p, showDialog yes input r)
  | .busy _ _ => (p, .none)
  | .render e =>
      let (p', o) := p.render e
      (p', diagnosticOf e ++ o)
  | .notify n => (p, diagnosticBefore n ++ p.notify n.message n.level ++ diagnosticAfter n)

def presentAll (yes : Bool) (input : List UInt8) (p : Presenter) : List Entry → Output
  | [] => .none
  | e :: es =>
      let (p, o) := present yes input p e
      o ++ presentAll yes input p es

def reload (s : Setting) (before : List Entry) :
    Yield → Activity Entry (Except Workflow.Failure Unit)
  | .completion (.reachable _) => do return (← loadInfo (s.after before)).map fun _ => ()
  | _ => return .ok ()

def closing : Yield → Output
  | .completion .declined => .line "Cancelled, nothing was changed on the device."
  | .completion (.reloadManually attempts) =>
      .line s!"device still unreachable after {attempts} attempts"
  | _ => .none

def applicationError (message : String) : Output :=
  .errorLine s!"application error: {message}"

def Surroundings.setting (x : Surroundings) (yes : Bool) (client : Http.Client) : Setting where
  files := x.files
  device := client.device x.network
  reply _ := ⟨answer yes x.input == .yes, 0, []⟩

def settings (x : Surroundings) (o : Options) : Except String Settings :=
  match Settings.load x.environment with
  | .error e => .error (Causes.message ("failed to load configuration" :: e.causes))
  | .ok s =>
      match o.device with
      | none => .ok s
      | some url => (s.setUrl url).mapError fun (m : String) => Causes.message ["invalid --device", m]

def address? (e : Stamped Entry) : Option (Stamped (Http.Endpoint × Http.Body)) :=
  match e.entry with
  | .call call => (Http.Client.address? call).map (⟨e.instant, ·⟩)
  | _ => none

def runCommand (x : Surroundings) (o : Options) (s : Settings) (c : Command) : Outcome :=
  let setting := x.setting o.yes s.client
  let first := (s.workflow.perform setting c).run .never
  let shown (es : List Entry) : Output := presentAll o.yes x.input .new es
  let exchanges (log : List (Stamped Entry)) : List (List Http.Request) :=
    s.client.traffic x.network (first.ending.elim 0 Prod.fst) [] (log.filterMap address?)
  match first.ending with
  | none => ⟨none, shown first.entries, exchanges first.log⟩
  | some (_, .error f) =>
      ⟨some 1, shown first.entries ++ applicationError f.message, exchanges first.log⟩
  | some (_, .ok result) =>
      let last := (reload setting first.entries result).run .never
      let output := shown first.entries ++ closing result ++ shown last.entries
      let sent := exchanges (first.log ++ last.log)
      match last.ending with
      | none => ⟨none, output, sent⟩
      | some (_, .error f) => ⟨some 1, output ++ applicationError f.message, sent⟩
      | some (_, .ok ()) => ⟨some 0, output, sent⟩

def question? (x : Surroundings) (args : List String) : Option Output :=
  match parse args with
  | .ok (.run ⟨device, false⟩ c) =>
      match settings x ⟨device, false⟩ with
      | .error _ => none
      | .ok s =>
          let es := ((s.workflow.perform (x.setting false s.client) c).run .never).entries
          (es.findSome? Entry.question?).map fun (r : Confirmation.Request) =>
            presentAll false x.input .new (es.takeWhile (!·.isDialog)) ++ dialogOutput false r
  | _ => none

def run (x : Surroundings) (args : List String) : Outcome :=
  match parse args with
  | .error _ => ⟨some 2, .none, []⟩
  | .ok .version => ⟨some 0, .line versionText, []⟩
  | .ok (.help topic) => ⟨some 0, .line (helpText topic), []⟩
  | .ok (.run o c) =>
      match settings x o with
      | .error m => ⟨some 1, applicationError m, []⟩
      | .ok s => runCommand x o s c

end FirmwareUpdate.CommandLine
