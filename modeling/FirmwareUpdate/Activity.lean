/-! Activities: what goes on in time, written to a log, and may be cancelled. An activity is a
function of its cancellation alone; two are joined by running the second from the instant and the
number of entries at which the first ends, so the log of the whole is the log of the first followed
by that of the second, later by the time the first took. Instants and spans are in milliseconds. -/

namespace FirmwareUpdate

/-- When the token of an activity is cancelled: at an instant, ahead of all else due then, or with
an entry of the log, counted from one. It is cancelled once either count has come down to zero. -/
structure Cancellation where
  instant : Option Nat
  entry : Option Nat
  deriving DecidableEq

namespace Cancellation

def never : Cancellation := ⟨none, none⟩

def before : Cancellation := ⟨some 0, none⟩

def atInstant (t : Nat) : Cancellation := ⟨some t, none⟩

def atEntry (n : Nat) : Cancellation := ⟨none, some n⟩

def isDue (c : Cancellation) : Bool :=
  c.instant == some 0 || c.entry == some 0

def after (c : Cancellation) (time entries : Nat) : Cancellation :=
  ⟨c.instant.map (· - time), c.entry.map (· - entries)⟩

def within (c : Cancellation) (span : Nat) : Option Nat :=
  if c.isDue then some 0
  else
    match c.instant with
    | some t => if t ≤ span then some t else none
    | none => none

end Cancellation

structure Stamped (ε : Type) where
  instant : Nat
  entry : ε

namespace Stamped

variable {ε δ : Type}

def later (t : Nat) (e : Stamped ε) : Stamped ε := ⟨t + e.instant, e.entry⟩

def map (f : ε → δ) (e : Stamped ε) : Stamped δ := ⟨e.instant, f e.entry⟩

end Stamped

structure Run (ε α : Type) where
  log : List (Stamped ε)
  ending : Option (Nat × α)

namespace Run

variable {ε α β : Type}

def later (t : Nat) (r : Run ε α) : Run ε α where
  log := r.log.map (Stamped.later t)
  ending := r.ending.map fun (u, a) => (t + u, a)

def after (log : List (Stamped ε)) (r : Run ε α) : Run ε α := ⟨log ++ r.log, r.ending⟩

def entries (r : Run ε α) : List ε := r.log.map (·.entry)

end Run

def Activity (ε α : Type) := Cancellation → Run ε α

namespace Activity

variable {ε δ α β : Type}

def run (x : Activity ε α) (c : Cancellation) : Run ε α := x c

def done (a : α) : Activity ε α := fun _ => ⟨[], some (0, a)⟩

def bind (x : Activity ε α) (f : α → Activity ε β) : Activity ε β := fun c =>
  let r := x c
  match r.ending with
  | none => ⟨r.log, none⟩
  | some (t, a) => ((f a (c.after t r.log.length)).later t).after r.log

instance : Monad (Activity ε) where
  pure := done
  bind := bind

def write (e : ε) : Activity ε Unit := fun _ => ⟨[⟨0, e⟩], some (0, ())⟩

def writeAll : List ε → Activity ε Unit
  | [] => pure ()
  | e :: es => do write e; writeAll es

def pass (span : Nat) : Activity ε Unit := fun _ => ⟨[], some (span, ())⟩

def await (span : Nat) : Activity ε Bool := fun c =>
  match c.within span with
  | some t => ⟨[], some (t, false)⟩
  | none => ⟨[], some (span, true)⟩

def goesOn : Activity ε Bool := await 0

def awaitCancellation : Activity ε Unit := fun c =>
  if c.isDue then ⟨[], some (0, ())⟩ else ⟨[], c.instant.map (·, ())⟩

def hang : Activity ε α := fun _ => ⟨[], none⟩

def mapLog (f : ε → δ) (x : Activity ε α) : Activity δ α := fun c =>
  let r := x c
  ⟨r.log.map (Stamped.map f), r.ending⟩

end Activity

end FirmwareUpdate
