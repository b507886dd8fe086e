import FirmwareUpdate.Terminal.Text
import FirmwareUpdate.Text.Utf8
import FirmwareUpdate.Workflow.Entry

/-! What the terminal prints. While a progress bar is up the lines would go above it, but a bar
that is not on a terminal prints nothing, so they are lost; errors go past it. -/

namespace FirmwareUpdate.Terminal

open Workflow

structure Output where
  out : String
  err : String

namespace Output

def none : Output := ⟨"", ""⟩

def append (a b : Output) : Output := ⟨a.out ++ b.out, a.err ++ b.err⟩

instance : Append Output := ⟨append⟩

def line (text : String) : Output := ⟨text ++ "\n", ""⟩

def errorLine (text : String) : Output := ⟨"", text ++ "\n"⟩

end Output

structure Presenter where
  bar : Bool

namespace Presenter

def new : Presenter := ⟨false⟩

def line (p : Presenter) (text : String) : Output :=
  if p.bar then .none else .line text

def lines (p : Presenter) (texts : List String) : Output :=
  texts.foldl (fun o text => o ++ p.line text) .none

def follow (p : Presenter) : Upload.Event → Presenter
  | .status .uploading => ⟨true⟩
  | .status s => if s.isTerminal then ⟨false⟩ else p
  | _ => p

def render (p : Presenter) : Event → Presenter × Output
  | .info i => (p, p.lines (infoLines i))
  | .upload e => (p.follow e, .none)
  | .countdown seconds => (p, p.line s!"Device restarting in {seconds}s...")
  | .reconnecting a =>
      (p, p.line s!"Waiting for device... (attempt {a.number}/{a.maxAttempts})")
  | .online _ => (p, .none)
  | .timedOut attempts =>
      (p, p.line <|
        s!"Device did not respond after {attempts} attempts. " ++
        "Check it manually and run `info` again.")

def notify (p : Presenter) (message : String) : Level → Output
  | .error => .errorLine s!"error: {message}"
  | .warning => p.line s!"warning: {message}"
  | .success | .info => p.line message

end Presenter

inductive Answer
  | yes
  | no
  | unreadable
  deriving DecidableEq

def newline : UInt8 := 10

def firstLine : List UInt8 → List UInt8
  | [] => []
  | b :: bs => if b = newline then [b] else b :: firstLine bs

def answer (assumeYes : Bool) (input : List UInt8) : Answer :=
  if assumeYes then .yes
  else
    match Text.Utf8.decode (firstLine input) with
    | none => .unreadable
    | some cs => if isYes cs then .yes else .no

def dialogOutput (assumeYes : Bool) (r : Confirmation.Request) : Output :=
  .line (dialogText r) ++
    if assumeYes then .line s!"{r.confirmLabel} (--yes)" else ⟨s!"{r.confirmLabel}? (y/N): ", ""⟩

end FirmwareUpdate.Terminal
