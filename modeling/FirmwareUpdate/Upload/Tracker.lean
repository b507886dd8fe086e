import FirmwareUpdate.Payload
import FirmwareUpdate.Upload.Failure

/-! The state of one upload. Every operation gives back the events to show; what comes before the
start, after the end or at the wrong moment changes nothing and shows nothing. Instants are in
nanoseconds. -/

namespace FirmwareUpdate.Upload

inductive Status
  | idle
  | uploading
  | validating
  | succeeded
  | failed
  | cancelled
  deriving DecidableEq

namespace Status

def isActive : Status → Bool
  | .uploading | .validating => true
  | _ => false

def isTerminal : Status → Bool
  | .succeeded | .failed | .cancelled => true
  | _ => false

end Status

abbrev Result := Except Failure Unit

inductive Event
  | status (s : Status)
  | progress (sent total : Nat) (percent : Float)
  | sample (percent speed : Float) (left : Option Float)
  | finished (r : Result)

structure Response where
  status : Nat
  body : String

structure Session where
  name : String
  total : Nat
  startedAt : Nat
  sent : Nat
  sampledAt : Nat
  sampledBytes : Nat
  status : Status

def float (n : Nat) : Float := n.toUInt64.toFloat

def percent (sent total : Nat) : Float :=
  if total = 0 then 100
  else
    let x := float sent / float total * 100
    if x < 0 then 0 else if x > 100 then 100 else x

def Session.percent (s : Session) : Float := Upload.percent s.sent s.total

def sampleInterval : Nat := 500000000

def seconds (span : Nat) : Float :=
  float (span / 1000000000) + float (span % 1000000000) / 1000000000

structure Tracker where
  session : Option Session
  outcome : Option Result

namespace Tracker

def new : Tracker := ⟨none, none⟩

def status (t : Tracker) : Status :=
  match t.session with
  | none => .idle
  | some s => s.status

def start (t : Tracker) (name : String) (size now : Nat) : Tracker × List Event :=
  match t.session with
  | some _ => (t, [])
  | none => (⟨some ⟨name, size, now, 0, now, 0, .uploading⟩, t.outcome⟩, [.status .uploading])

def advance (s : Session) (loaded total : Nat) : Session :=
  { s with total, sent := max s.sent (min loaded total) }

def sampleOf (s : Session) (now : Nat) : Event :=
  let speed := float (s.sent - s.sampledBytes) / seconds (now - s.sampledAt)
  .sample s.percent speed (if speed > 0 then some (float (s.total - s.sent) / speed) else none)

def resample (s : Session) (now : Nat) : Session × List Event :=
  if sampleInterval ≤ now - s.sampledAt then
    ({ s with sampledAt := now, sampledBytes := s.sent }, [sampleOf s now])
  else (s, [])

def complete (s : Session) : Session × List Event :=
  if s.total ≤ s.sent then ({ s with status := .validating }, [.status .validating]) else (s, [])

def progress (t : Tracker) (loaded total now : Nat) : Tracker × List Event :=
  match t.session with
  | none => (t, [])
  | some s =>
      if s.status = .uploading then
        let s := advance s loaded total
        let (s', samples) := resample s now
        let (s', verdicts) := complete s'
        ({ t with session := some s' },
          .progress s.sent s.total s.percent :: samples ++ verdicts)
      else (t, [])

def finish (t : Tracker) (status : Status) (r : Result) : Tracker × List Event :=
  (⟨t.session.map fun (s : Session) => { s with status }, some r⟩, [.status status, .finished r])

def defaultRejection : String := "Upload failed"

def classify (r : Response) : Result :=
  if 200 ≤ r.status ∧ r.status < 300 then
    match UploadVerdict.decode r.body.toList with
    | .error f => .error (.malformed (f.message r.body.toList))
    | .ok v => if v.success then .ok () else .error (.rejected (messageOr defaultRejection v.error))
  else .error (.http r.status)

def cancel (t : Tracker) : Tracker × List Event :=
  if t.status.isActive then t.finish .cancelled (.error .cancelled) else (t, [])

def answer (t : Tracker) (r : Response) : Tracker × List Event :=
  if t.status.isActive then
    match classify r with
    | .ok () => t.finish .succeeded (.ok ())
    | .error f => t.finish .failed (.error f)
  else (t, [])

def fail (t : Tracker) (reason : String) : Tracker × List Event :=
  if t.status.isActive then t.finish .failed (.error (.network reason)) else (t, [])

inductive Operation
  | start (name : String) (size now : Nat)
  | progress (loaded total now : Nat)
  | answer (r : Response)
  | fail (reason : String)
  | cancel

def step (t : Tracker) : Operation → Tracker × List Event
  | .start name size now => t.start name size now
  | .progress loaded total now => t.progress loaded total now
  | .answer r => t.answer r
  | .fail reason => t.fail reason
  | .cancel => t.cancel

def run (t : Tracker) : List Operation → Tracker × List Event
  | [] => (t, [])
  | o :: os =>
      let (t, es) := t.step o
      let (t, fs) := run t os
      (t, es ++ fs)

end Tracker

end FirmwareUpdate.Upload
