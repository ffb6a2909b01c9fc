import AudioCapture.Diagnostics
import AudioCapture.Outcome
import AudioCapture.Priority
import AudioCapture.Queue
import AudioCapture.ReadBuffer

/-!
# Captures

A transport in use: the data queue and the status slot with the capture thread at one end and the
consumer at the other. The thread goes round a loop of single steps; everything that another
thread could come between is a step of its own.

* `CapturePoint`: where the thread stands.
* `StopPoint`: how far a request to stop has got.
-/

namespace AudioCapture

/-- Where the capture thread stands. -/
inductive CapturePoint where
  | launched
  /-- In the request for an elevated priority. -/
  | requesting
  /-- About to mark itself as running. -/
  | entering
  /-- About to look at the stop flag. -/
  | testing
  /-- In the wait for a grant of space. -/
  | waiting
  /-- Has taken a grant. -/
  | granted
  /-- In a read of the device, with room for `free` bytes. -/
  | reading (free : Nat)
  /-- About to publish bytes of a read that reported `reported` of them. -/
  | storing (free reported : Nat)
  /-- About to publish the outcome of the read. -/
  | recording (outcome : ReadOutcome)
  /-- About to signal the consumer. -/
  | signalling
  /-- Has seen the stop flag. -/
  | leaving
  | ended
  /-- Broke down in a read or in the request for a priority. -/
  | brokenDown
  deriving DecidableEq, Repr

/-- Whether the thread takes no more steps. -/
def CapturePoint.isFinal : CapturePoint → Bool
  | ended | brokenDown => true
  | _ => false

/-- How far a request to stop has got. -/
inductive StopPoint where
  | unasked
  /-- The flag is up. -/
  | flagged
  /-- The thread was not running when it was tried to mark a running one as stopping. -/
  | unmarked
  | returned
  deriving DecidableEq, Repr

structure Capture where
  chunkSize : Nat
  chunkCount : Nat
  data : Queue UInt8
  /-- The status slot. -/
  records : Ring ReadOutcome
  priority : ThreadPriority
  requester : Requester
  point : CapturePoint := .launched
  state : WorkerState := .created
  stopFlag : Bool := false
  stopPoint : StopPoint := .unasked
  buffer : ReadBuffer := .blank
  tally : Tally := {}

namespace Capture

def diagnostics (c : Capture) : Diagnostics := c.tally.snapshot c.state

/-- Whether the thread is in its wait and has nothing to do. -/
def isIdle (c : Capture) : Bool :=
  c.point == .waiting && !c.data.signals.notFull && !c.stopFlag

end Capture

end AudioCapture
