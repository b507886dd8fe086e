import FirmwareUpdate.Workflow.Session

/-! Arguments of the command line: options, then a command, then the operands of the command. What
is wrong with the arguments is found from the left; a request for help or the version ends the
search. -/

namespace FirmwareUpdate.CommandLine

abbrev Command := Workflow.Task

structure Options where
  device : Option String
  yes : Bool

inductive Topic
  | program
  | info
  | update
  | rollback
  | help

inductive Request
  | run (options : Options) (command : Command)
  | help (topic : Topic)
  | version

structure UsageError where

abbrev Parsed := Except UsageError Request

def misused : Parsed := .error ⟨⟩

def isOption (s : String) : Bool :=
  match s.toList with
  | '-' :: _ :: _ => true
  | _ => false

def parseOperands (topic : Topic) (finish : Option String → Option Command) (o : Options) :
    (literal : Bool) → Option String → List String → Parsed
  | _, path, [] =>
      match finish path with
      | some c => .ok (.run o c)
      | none => misused
  | literal, path, a :: rest =>
      if !literal && a == "--" then parseOperands topic finish o true path rest
      else if !literal && (a == "--help" || "-h".toList.isPrefixOf a.toList) then .ok (.help topic)
      else if !literal && isOption a then misused
      else
        match topic, path with
        | .update, none =>
            if a = "" then misused else parseOperands topic finish o literal (some a) rest
        | _, _ => misused

def parseTopic : List String → Parsed
  | [] => .ok (.help .program)
  | ["info"] => .ok (.help .info)
  | ["update"] => .ok (.help .update)
  | ["rollback"] => .ok (.help .rollback)
  | ["help"] => .ok (.help .help)
  | _ => misused

def parseCommand (o : Options) : String → List String → Parsed
  | "info", rest => parseOperands .info (fun _ => some .info) o false none rest
  | "update", rest => parseOperands .update (·.map .update) o false none rest
  | "rollback", rest => parseOperands .rollback (fun _ => some .rollback) o false none rest
  | "help", rest => parseTopic rest
  | _, _ => misused

inductive Word
  | options (o : Options)
  | deviceNext (o : Options)
  | command
  | stop (r : Parsed)

def setYes (o : Options) : Word :=
  if o.yes then .stop misused else .options { o with yes := true }

def setDevice (o : Options) (url : List Char) : Word :=
  if o.device.isSome then .stop misused
  else .options { o with device := some (String.ofList url) }

def parseShort (o : Options) : List Char → Word
  | [] => .options o
  | 'y' :: cs =>
      match setYes o with
      | .options o => parseShort o cs
      | w => w
  | ['d'] => .deviceNext o
  | 'd' :: '=' :: cs => setDevice o cs
  | 'd' :: cs => setDevice o cs
  | 'h' :: _ => .stop (.ok (.help .program))
  | 'V' :: _ => .stop (.ok .version)
  | _ => .stop misused

def parseWord (o : Options) (a : String) : Word :=
  match a.toList with
  | '-' :: '-' :: name =>
      if name = "yes".toList then setYes o
      else if name = "help".toList then .stop (.ok (.help .program))
      else if name = "version".toList then .stop (.ok .version)
      else if name = "device".toList then .deviceNext o
      else if "device=".toList.isPrefixOf name then setDevice o (name.drop 7)
      else .stop misused
  | '-' :: c :: cs => parseShort o (c :: cs)
  | _ => .command

def parseAfterClash (o : Options) : List String → Parsed
  | [] => misused
  | a :: rest =>
      match parseWord o a with
      | .command =>
          match parseCommand o a rest with
          | .ok (.help topic) => .ok (.help topic)
          | _ => misused
      | _ => misused

def parseFrom (o : Options) (deviceNext : Bool) : List String → Parsed
  | [] => misused
  | a :: rest =>
      if deviceNext then
        if isOption a then misused
        else
          match setDevice o a.toList with
          | .options o => parseFrom o false rest
          | _ => parseAfterClash o rest
      else
        match parseWord o a with
        | .options o => parseFrom o false rest
        | .deviceNext o => parseFrom o true rest
        | .command => parseCommand o a rest
        | .stop r => r

def parse (args : List String) : Parsed :=
  parseFrom ⟨none, false⟩ false args

end FirmwareUpdate.CommandLine
