import AudioCapture.Capture.Basic
import AudioCapture.Notice
import AudioCapture.Source

/-!
# Steps of a capture

One total step for each event: a step of the capture thread, of the thread that stops it, or of
the consumer. An event that cannot happen where the thread stands changes nothing.

* `endRequest_eq`: all that the end of a request for a priority can do.
* `run_append`: runs can be cut anywhere.
-/

namespace AudioCapture

inductive CaptureEvent where
  /-- The capture thread takes the step it is about to take. -/
  | proceed
  /-- The time of its wait is up. -/
  | expire
  /-- A held request for a priority is let go. -/
  | letGo
  /-- The device read that the thread is in comes back. -/
  | returned (read : DeviceRead)
  /-- The next of the three steps of a request to stop. -/
  | stop
  /-- The thread is joined, if it takes no more steps. -/
  | join
  /-- Signal bits are set. -/
  | wake (mask : Signals)
  /-- Somebody looks for signal bits. -/
  | take (mask : Signals)
  /-- The consumer reads up to a number of bytes. -/
  | drain (most : Nat)
  /-- The consumer takes the outcome in the status slot. -/
  | nextRecord

/-- What a step shows to the outside. -/
structure CaptureReply where
  /-- The priority that is asked for. -/
  requested : Option ThreadPriority := none
  /-- The room offered to the device read that starts. -/
  offered : Option Nat := none
  /-- The bits that were seen. -/
  seen : Signals := {}
  /-- The bytes that were read. -/
  bytes : List UInt8 := []
  /-- The outcome that was taken. -/
  record : Option ReadOutcome := none
  notices : List Notice := []
  deriving DecidableEq, Repr

namespace Capture

/-! ## The capture thread -/

/-- The request for an elevated priority ends. Whatever the answer, the thread goes on. -/
def endRequest (c : Capture) : RequestEnd → Capture × CaptureReply
  | .answered (.ok ()) =>
      ({ c with point := .entering }, { notices := c.requester.notices c.priority })
  | .answered (.error error) =>
      ({ c with point := .entering }, { notices := [.elevationFailed c.priority error] })
  | .held => (c, {})
  | .brokeDown _ => ({ c with point := .brokenDown }, {})

/-- Wherever the end of a request takes the thread, nothing but a line of the log is seen of it. -/
theorem endRequest_eq (c : Capture) (ends : RequestEnd) : ∃ point notices,
    c.endRequest ends = ({ c with point }, { notices }) ∧
      (point = .entering ∨ point = c.point ∨ point = .brokenDown) := by
  unfold endRequest
  split
  · exact ⟨_, _, rfl, .inl rfl⟩
  · exact ⟨_, _, rfl, .inl rfl⟩
  · exact ⟨_, _, rfl, .inr (.inl rfl)⟩
  · exact ⟨_, _, rfl, .inr (.inr rfl)⟩

def request (c : Capture) : Capture × CaptureReply :=
  c.endRequest (c.requester.request c.priority)

/-- Looks for a grant of space; `expired` when the wait ends without one. -/
def lookForGrant (c : Capture) (expired : Capture) : Capture × CaptureReply :=
  let (data, seen) := c.data.take .spaceReady
  if seen.contains .spaceReady then ({ c with data, point := .granted }, { seen })
  else (expired, {})

/-- Publishes as many of the bytes at the start of the buffer as the device reported and the room
offered to it could hold. -/
def publish (c : Capture) (free reported : Nat) : Capture × CaptureReply :=
  let (ring, written) := c.data.ring.writeFrom (min reported free) c.buffer.byte?
  let tally := { c.tally with
    shortWrites := c.tally.shortWrites + if written < reported then 1 else 0
    bytesDropped := c.tally.bytesDropped + (reported - written)
    readsOk := c.tally.readsOk + 1
    bytesRead := c.tally.bytesRead + reported
    bytesPublished := c.tally.bytesPublished + written }
  ({ c with
      data := { c.data with ring }
      tally
      point := .recording (.ok (.ofNat reported)) },
    { notices := if written < reported then [.writeShort written reported free] else [] })

/-- Puts an outcome into the status slot, unless there is still one in it. -/
def publishRecord (c : Capture) (outcome : ReadOutcome) : Capture × CaptureReply :=
  let (records, published) := c.records.writeOne outcome
  let next := { c with records, point := .signalling }
  if published then
    ({ next with tally := { c.tally with statusPublished := c.tally.statusPublished + 1 } }, {})
  else
    ({ next with tally := { c.tally with statusDrops := c.tally.statusDrops + 1 } },
      { notices := [.recordDropped outcome] })

/-- The next step of the capture thread. A wait without a grant and a read that has not come back
go on. -/
def proceed (c : Capture) : Capture × CaptureReply :=
  match c.point with
  | .launched =>
      if c.priority.isElevated then
        ({ c with point := .requesting }, { requested := some c.priority })
      else ({ c with point := .entering }, {})
  | .requesting => c.request
  | .entering =>
      ({ c with
          point := .testing
          state := if c.state = .created then .running else c.state }, {})
  | .testing => ({ c with point := if c.stopFlag then .leaving else .waiting }, {})
  | .waiting => c.lookForGrant c
  | .granted =>
      let free := c.data.ring.free
      ({ c with
          point := .reading free
          tally := { c.tally with iterations := c.tally.iterations + 1 } },
        { offered := some free })
  | .storing free reported => c.publish free reported
  | .recording outcome => c.publishRecord outcome
  | .signalling => ({ c with data := c.data.wake .dataReady, point := .testing }, {})
  | .leaving => ({ c with state := .exited, point := .ended }, {})
  | .reading _ | .ended | .brokenDown => (c, {})

/-- The end of a wait: a last look, and round the loop again if there is no grant. -/
def expire (c : Capture) : Capture × CaptureReply :=
  match c.point with
  | .waiting =>
      c.lookForGrant
        { c with
          point := .testing
          tally := { c.tally with idleWaits := c.tally.idleWaits + 1 } }
  | _ => (c, {})

/-- A request that is held is let go. -/
def letGo (c : Capture) : Capture × CaptureReply :=
  match c.point, c.requester.request c.priority with
  | .requesting, .held => c.endRequest (c.requester.release c.priority)
  | _, _ => (c, {})

/-- A device read comes back. It has changed nothing behind the room that was offered. -/
def returned (c : Capture) (read : DeviceRead) : Capture × CaptureReply :=
  match c.point with
  | .reading free =>
      let filled := { c with buffer := c.buffer.within free read.fill }
      match read.ending with
      | .transferred count => ({ filled with point := .storing free count.toNat }, {})
      | .failed status =>
          let code := (status.toFailure "read").code
          ({ filled with
              point := .recording (.failed code)
              tally := { c.tally with readErrors := c.tally.readErrors + 1 } },
            { notices := [.deviceCallFailed "read" status] })
      | .brokeDown => ({ filled with point := .brokenDown }, {})
  | _ => (c, {})

/-! ## The thread that stops it -/

/-- A request to stop puts up the flag, then marks the thread as stopping if it runs, and else if
it has not yet got so far. -/
def stop (c : Capture) : Capture :=
  match c.stopPoint with
  | .unasked => { c with stopFlag := true, stopPoint := .flagged }
  | .flagged =>
      if c.state = .running then { c with state := .stopping, stopPoint := .returned }
      else { c with stopPoint := .unmarked }
  | .unmarked =>
      { c with
        stopPoint := .returned
        state := if c.state = .created then .stopping else c.state }
  | .returned => c

/-- A whole request to stop. -/
def requestStop (c : Capture) : Capture := c.stop.stop.stop

/-- Joins a thread that takes no more steps. One that broke down has not marked itself as
exited. -/
def join (c : Capture) : Capture × CaptureReply :=
  match c.point with
  | .brokenDown => ({ c with state := .exited }, { notices := [.threadBrokeDown] })
  | _ => (c, {})

/-! ## Signals and the consumer -/

def wake (c : Capture) (mask : Signals) : Capture := { c with data := c.data.wake mask }

def take (c : Capture) (mask : Signals) : Capture × Signals :=
  let (data, seen) := c.data.take mask
  ({ c with data }, seen)

/-- Tells the capture thread that there is room. -/
def requestSpace (c : Capture) : Capture := c.wake .spaceReady

/-- Whether there are new data; the signal is used up. -/
def takeData (c : Capture) : Capture × Bool :=
  let (next, seen) := c.take .dataReady
  (next, seen.contains .dataReady)

def drain (c : Capture) (most : Nat) : Capture × List UInt8 :=
  let (ring, bytes) := c.data.ring.read most
  ({ c with data := { c.data with ring } }, bytes)

def nextRecord (c : Capture) : Capture × Option ReadOutcome :=
  let (records, record) := c.records.readOne
  ({ c with records }, record)

/-! ## Runs -/

def step (c : Capture) : CaptureEvent → Capture × CaptureReply
  | .proceed => c.proceed
  | .expire => c.expire
  | .letGo => c.letGo
  | .returned read => c.returned read
  | .stop => (c.stop, {})
  | .join => c.join
  | .wake mask => (c.wake mask, {})
  | .take mask =>
      let (next, seen) := c.take mask
      (next, { seen })
  | .drain most =>
      let (next, bytes) := c.drain most
      (next, { bytes })
  | .nextRecord =>
      let (next, record) := c.nextRecord
      (next, { record })

def run (c : Capture) : List CaptureEvent → Capture
  | [] => c
  | event :: events => run (c.step event).1 events

/-- The replies of a run, in order. -/
def replies (c : Capture) : List CaptureEvent → List CaptureReply
  | [] => []
  | event :: events => (c.step event).2 :: replies (c.step event).1 events

@[simp] theorem run_append (c : Capture) (first second : List CaptureEvent) :
    c.run (first ++ second) = (c.run first).run second := by
  induction first generalizing c with
  | nil => rfl
  | cons event events ih => exact ih _

theorem replies_append (c : Capture) (first second : List CaptureEvent) :
    c.replies (first ++ second) = c.replies first ++ (c.run first).replies second := by
  induction first generalizing c with
  | nil => rfl
  | cons event events ih => simp [replies, run, ih]

end Capture

end AudioCapture
