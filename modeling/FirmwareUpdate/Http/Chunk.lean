/-! The slices in which an image is sent, and the running counts that are reported with them. A
slice is cut off the image in advance, but its count is reported only when the slice is taken, and
only while somebody listens. -/

namespace FirmwareUpdate.Http

def chunkSize : Nat := 16384

def chunksFrom (data : ByteArray) (start : Nat) : List ByteArray :=
  if start < data.size then
    data.extract start (start + chunkSize) :: chunksFrom data (start + chunkSize)
  else []
termination_by data.size - start
decreasing_by simp only [chunkSize]; omega

def chunks (data : ByteArray) : List ByteArray :=
  chunksFrom data 0

structure Outgoing where
  rest : List ByteArray
  sent : Nat
  listened : Bool
  reported : List Nat

namespace Outgoing

inductive Move
  | take
  | leave
  deriving DecidableEq

def new (data : ByteArray) : Outgoing := ⟨chunks data, 0, true, []⟩

def report (s : Outgoing) : Outgoing :=
  if s.listened then { s with reported := s.reported ++ [s.sent] } else s

def take (s : Outgoing) : Option ByteArray × Outgoing :=
  match s.rest with
  | [] => (none, s)
  | c :: rest => (some c, report { s with rest, sent := s.sent + c.size })

def step (s : Outgoing) : Move → Option ByteArray × Outgoing
  | .take => s.take
  | .leave => (none, { s with listened := false })

def run (s : Outgoing) : List Move → List ByteArray × Outgoing
  | [] => ([], s)
  | m :: ms =>
      let (c, s) := s.step m
      let (cs, s) := run s ms
      (c.toList ++ cs, s)

end Outgoing

def counts (data : ByteArray) : List Nat :=
  ((Outgoing.new data).run (List.replicate (chunks data).length .take)).2.reported

end FirmwareUpdate.Http
