import AudioCapture.Breakdown
import AudioCapture.Session.Basic

/-!
# Control of a session

Setting up the transport, starting and stopping the device, looking at the state, and closing.

Closing has two halves with the wait for the capture thread between them. The first marks the
session as closed, takes the transport away from it and asks the thread to stop. The second joins
the thread if it has come to its end by then and abandons it otherwise, and releases the device.
-/

namespace AudioCapture

/-- The element sizes of the two queues. -/
def ElementLayout.byte : ElementLayout := ⟨1, 1⟩

def ElementLayout.outcome : ElementLayout := ⟨16, 8⟩

/-- How the first half of closing ends. -/
inductive Closing where
  | refused (failure : Failure)
  | brokeDown (breakdown : Breakdown)
  /-- There is no thread to wait for. -/
  | immediate
  /-- The thread has so much time to come to its end. -/
  | joining (timeout : Duration)
  deriving DecidableEq, Repr

/-- Closing with a thread, by the time to wait for it. -/
def Closing.within : Except Breakdown Duration → Closing
  | .error breakdown => .brokeDown breakdown
  | .ok timeout => .joining timeout

namespace Session

variable {σ : Type}

/-! ## Setting up -/

def badSize (size count : UInt32) : Failure :=
  .invalidArguments s!"bad transport size {size} x {count}"

def overLimit (capacity limit : Nat) : Failure :=
  .invalidArguments s!"transport of {capacity} bytes exceeds limit of {limit}"

def threadRefused : Failure :=
  .invalidArguments
    "failed to spawn capture thread: Resource temporarily unavailable (os error 11)"

/-- Makes the transport of a number of chunks of a size and launches the capture thread. -/
def setup (host : Host) (size count : UInt32) (priority : ThreadPriority) : Control σ Unit :=
  fun s =>
    let capacity := size.toNat * count.toNat
    let limit := s.config.maxTransportBytes.toNat
    if !s.holdsSource then (.error .closed, s)
    else if s.state.hasTransport then (.error .alreadyPrepared, s.note .setupRepeated)
    else if capacity = 0 then (.error (badSize size count), s)
    else if limit < capacity then (.error (overLimit capacity limit), s)
    else
      match Queue.make .byte host capacity, Ring.make .outcome host 1 with
      | .error fault, _ => (.error fault.failure, s.note (.dataQueueInvalid fault.failure))
      | .ok _, .error fault => (.error fault.failure, s.note (.statusQueueInvalid fault.failure))
      | .ok data, .ok records =>
          match data.bind? with
          | none => (.error Queue.alreadyBound, s.note (.signalGroupInvalid Queue.alreadyBound))
          | some data =>
              -- the session counts as prepared while the thread is being started
              let prepared := { s with state := .prepared }
              if host.startsThreads then
                let capture : Capture := {
                  chunkSize := size.toNat
                  chunkCount := count.toNat
                  data
                  records
                  priority
                  requester := s.requester }
                let next := { prepared with
                  holdsTransport := true
                  holdsReader := true
                  capture := some capture }
                (.ok (), next.note (.prepared count.toNat size.toNat priority))
              else
                (.error threadRefused,
                  { prepared with state := .idle }.note (.threadNotStarted threadRefused))

/-! ## Starting, stopping and looking -/

/-- Makes a call of the device that only a session in mmap mode passes on. -/
def whenMapped (operation : String) (call : AudioSource σ → Attempt σ Unit) :
    Control σ Unit := fun s =>
  if s.config.mmapMode then attempt operation call s else requireSource s

def start : Control σ Unit := whenMapped "start" AudioSource.start

def stop : Control σ Unit := whenMapped "stop" AudioSource.stop

/-- The capture thread of a session that still has its transport. -/
def thread? (s : Session σ) : Option Capture := if s.holdsTransport then s.capture else none

/-- The state; a prepared session becomes a running one when its thread is seen to run. -/
def lookAtState (s : Session σ) : SessionState × Session σ :=
  if s.state = .prepared && s.thread?.any fun c => c.state = .running then
    (.running, { s with state := .running }.note .sessionRunning)
  else (s.state, s)

def diagnostics (s : Session σ) : Diagnostics :=
  match s.thread? with
  | some c => c.diagnostics
  | none => s.lastDiagnostics.getD {}

/-! ## Closing -/

/-- The latest second that the clock of a deadline can show. -/
def lastSecond : Nat := 9223372036854775807

/-- What that clock shows when a session is closed, unless something else is said: it starts with
the machine, which is taken to have run for an hour by then. -/
def closingTime : Duration := ⟨3600 * Duration.nanosecondsPerSecond⟩

/-- A time to wait from when the clock shows `now`, if it can be told and its end can be shown. -/
def checkedWait (now : Duration) : Option Duration → Except Breakdown Duration
  | none => .error .timeoutOverflow
  | some timeout =>
      if lastSecond < (now.plus timeout).seconds then .error .deadlineOverflow
      else .ok timeout

/-- How long to wait for the capture thread when the clock shows `now`. -/
def joinTime (now : Duration) (config : SessionConfig) : Except Breakdown Duration :=
  checkedWait now config.joinTimeout?

/-- The first half of closing, when the clock shows `now`. -/
def beginClose (s : Session σ) (now : Duration) : Closing × Session σ :=
  if s.closed then (.refused .closed, s)
  else
    match s.thread? with
    | none => (.immediate, { s with closed := true })
    | some c =>
        (.within (joinTime now s.config),
          { s with
            closed := true
            holdsTransport := false
            capture := some c.requestStop })

/-- How many others still use the transport: the consumer, and a thread that goes on. -/
def otherHandles (s : Session σ) (c : Capture) : Nat :=
  s.holdsReader.toNat + (!c.point.isFinal).toNat

/-- Joins the capture thread if it has come to its end, abandons it otherwise, and keeps its
counts. -/
def letThreadGo (s : Session σ) (timeout : Duration) (c : Capture) : Session σ :=
  let (joined, reply) := c.join
  let late := if c.point.isFinal then [] else [.threadLate timeout c.state, .threadLeft c.state]
  { s with
    capture := some joined
    lastDiagnostics := some joined.diagnostics
    log := s.log ++ reply.notices ++ late ++ [.released (s.otherHandles c)] }

/-- Releases the device of a session that has it. -/
def releaseSource (s : Session σ) : Session σ :=
  if s.holdsSource then
    { s with device := (s.source.close.run s.device).2, holdsSource := false }
  else s

/-- The second half of closing, after the time for the capture thread if there is one. -/
def endClose (s : Session σ) (timeout? : Option Duration) : Session σ :=
  let parted :=
    match timeout?, s.capture with
    | some timeout, some c => s.letThreadGo timeout c
    | _, _ => s
  ({ parted with state := .closed }.releaseSource).note .sessionClosed

end Session

end AudioCapture
