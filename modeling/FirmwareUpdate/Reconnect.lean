import FirmwareUpdate.Activity

/-! Polling a device that restarts. A probe starts at every multiple of the interval, whatever
became of those before, until one is answered in good health or the attempts are used up and all
probes are over. -/

namespace FirmwareUpdate.Reconnect

structure Policy where
  interval : Nat
  maxAttempts : Nat
  timeout : Nat

def Policy.standard : Policy := ⟨500, 60, 2000⟩

inductive Failure
  | timedOut (attempts : Nat)
  | cancelled (attempts : Nat)
  deriving DecidableEq

def Failure.message : Failure → String
  | .timedOut attempts => s!"device did not respond after {attempts} attempts"
  | .cancelled attempts => s!"reconnect polling cancelled after {attempts} attempts"

structure Attempt where
  number : Nat
  maxAttempts : Nat
  interval : Nat
  timeout : Nat

inductive Entry
  | attempt (a : Attempt)
  | probe

inductive Probe
  | answer (delay : Nat) (healthy : Bool)
  | silence

namespace Probe

def span (timeout : Nat) : Probe → Nat
  | .answer delay _ => min delay timeout
  | .silence => timeout

def isHealthy (timeout : Nat) : Probe → Bool
  | .answer delay healthy => healthy && delay ≤ timeout
  | .silence => false

end Probe

structure Arrival where
  number : Nat
  instant : Nat

/-- What the probes so far amount to: the healthy answer that comes first, and when all are over. -/
structure Flight where
  first : Option Arrival
  ended : Nat

namespace Flight

def none : Flight := ⟨Option.none, 0⟩

def sooner (a b : Arrival) : Arrival :=
  if b.instant < a.instant then b else a

def launch (f : Flight) (number instant : Nat) (p : Probe) (timeout : Nat) : Flight where
  first :=
    if p.isHealthy timeout then
      let a : Arrival := ⟨number, instant + p.span timeout⟩
      some (f.first.elim a (sooner · a))
    else f.first
  ended := max f.ended (instant + p.span timeout)

end Flight

def arrive (started now : Nat) (a : Arrival) : Activity Entry (Except Failure Nat) := do
  if ← .await (a.instant - now) then return .ok a.number
  else return .error (.cancelled started)

def pollFrom (p : Policy) (probes : Nat → Probe) :
    (left started : Nat) → Flight → Activity Entry (Except Failure Nat)
  | 0, started, flight =>
      let now := started * p.interval
      match flight.first with
      | some a => arrive started now a
      | none => do
          if started = 0 then return .error (.timedOut 0)
          else if ← .await (flight.ended - now) then return .error (.timedOut started)
          else return .error (.cancelled started)
  | left + 1, started, flight =>
      let now := started * p.interval
      let tick := (started + 1) * p.interval
      let next : Activity Entry (Except Failure Nat) := do
        if ← .await p.interval then
          .write (.attempt ⟨started + 1, p.maxAttempts, p.interval, p.timeout⟩)
          .write .probe
          pollFrom p probes left (started + 1)
            (flight.launch (started + 1) tick (probes started) p.timeout)
        else return .error (.cancelled started)
      match flight.first with
      | some a => if a.instant ≤ tick then arrive started now a else next
      | none => next

/-- The number of the attempt that was answered; attempt `n + 1` makes `probes n`. -/
def poll (p : Policy) (probes : Nat → Probe) : Activity Entry (Except Failure Nat) :=
  pollFrom p probes p.maxAttempts 0 .none

end FirmwareUpdate.Reconnect
