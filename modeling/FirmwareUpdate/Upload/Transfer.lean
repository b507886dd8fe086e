import FirmwareUpdate.Activity
import FirmwareUpdate.Upload.Tracker

/-! An upload in time. The device takes the image in steps, which report byte counts and now and
then let others run; a report is shown the next time the device lets others run, in the order of
the reports. The token is looked at before each report is shown and before the device goes on, but
not once the device is through its steps: what is then still unreported is shown, and the answer
decides. -/

namespace FirmwareUpdate.Upload

inductive Step
  | send (count : Nat)
  | yield
  | sleep (span : Nat)
  | close
  | stall

inductive Ending
  | answered (r : Response)
  | broken (reason : String)
  | aborted

structure Transfer where
  steps : List Step
  ending : Ending

structure Image where
  name : String
  data : ByteArray

inductive Entry
  | started (image : Image)
  | delivered
  | event (e : Event)

/-- Where a transfer stands: the counts reported and not yet shown, and the time since its start. -/
structure Progress where
  tracker : Tracker
  pending : List Nat
  closed : Bool
  elapsed : Nat

namespace Progress

def instant (p : Progress) : Nat := p.elapsed * 1000000

def send (p : Progress) (count : Nat) : Progress :=
  if p.closed then p else { p with pending := p.pending ++ [count] }

end Progress

def showAll (es : List Event) : Activity Entry Unit :=
  .writeAll (es.map .event)

def verdict (t : Tracker) : Result :=
  t.outcome.getD (.error .cancelled)

def showPending (total now : Nat) : Tracker → List Nat → Activity Entry (Tracker × Bool)
  | t, [] => do return (t, ← .goesOn)
  | t, count :: counts => do
      if ← .goesOn then
        let (t, es) := t.progress count total now
        showAll es
        showPending total now t counts
      else return (t, false)

def drain (total now : Nat) (t : Tracker) (counts : List Nat) : Tracker × List Event :=
  t.run (counts.map fun (n : Nat) => .progress n total now)

def conclude (total now : Nat) (t : Tracker) : Ending → Tracker × List Event
  | .answered r =>
      t.run ((if t.status = .uploading then [.progress total total now] else []) ++ [.answer r])
  | .broken reason => t.fail reason
  | .aborted => t.cancel

def settle (total : Nat) (ending : Ending) (p : Progress) : Activity Entry Result := do
  let (t, es) := drain total p.instant p.tracker p.pending
  let (t, fs) := conclude total p.instant t ending
  showAll (es ++ fs)
  return verdict t

def abandon (t : Tracker) : Activity Entry Result := do
  let (t, es) := t.cancel
  showAll es
  return verdict t

def proceed (total : Nat) (ending : Ending) : List Step → Progress → Activity Entry Result
  | [], p => do
      .write .delivered
      settle total ending p
  | .send count :: steps, p => proceed total ending steps (p.send count)
  | .close :: steps, p => proceed total ending steps { p with closed := true }
  | .sleep 0 :: steps, p => proceed total ending steps p
  | .yield :: steps, p => do
      let (t, goesOn) ← showPending total p.instant p.tracker p.pending
      if goesOn then proceed total ending steps { p with tracker := t, pending := [] }
      else abandon t
  | .sleep (span + 1) :: steps, p => do
      let (t, goesOn) ← showPending total p.instant p.tracker p.pending
      if goesOn then
        if ← .await (span + 1) then
          let elapsed := p.elapsed + (span + 1)
          proceed total ending steps { p with tracker := t, pending := [], elapsed }
        else abandon t
      else abandon t
  | .stall :: _, p => do
      let (t, goesOn) ← showPending total p.instant p.tracker p.pending
      if goesOn then .awaitCancellation
      abandon t

def drive (image : Image) (transfer : Transfer) : Activity Entry Result := do
  let (t, es) := Tracker.new.start image.name image.data.size 0
  showAll es
  if ← .goesOn then
    .write (.started image)
    proceed image.data.size transfer.ending transfer.steps ⟨t, [], false, 0⟩
  else abandon t

end FirmwareUpdate.Upload
