import AudioCapture.Session.Basic

/-!
# The thread of a session

What can happen to the capture thread of a session. A read of the device starts when the thread
has taken a grant and comes back later, unless the device holds it; a requester that holds its
callers lets the thread go once its gate is open.

* `settle`: lets the thread go on for as long as there is something for it to do.
* `outlast`: lets its wait come to an end as well.
-/

namespace AudioCapture

inductive ThreadEvent where
  /-- The thread takes the step it is about to take. -/
  | proceed
  /-- The time of its wait is up. -/
  | expire
  /-- The device read it is in comes back. -/
  | comeBack
  /-- The request for a priority it is held in is let go. -/
  | letGo
  deriving DecidableEq, Repr

namespace Session

variable {σ : Type}

/-- What a step of the transport shows becomes part of the session: a new priority request, and a
device read that starts. -/
def follow (s : Session σ) : Capture × CaptureReply → Session σ
  | (capture, reply) =>
      let next := { s with
        capture := some capture
        requests := s.requests ++ reply.requested.toList
        threadLog := s.threadLog ++ reply.notices }
      match reply.offered with
      | none => next
      | some free =>
          let (read, device) := (s.source.read free).run s.device
          { next with device, pendingRead := some read }

/-- Lets something happen to the thread; what cannot happen changes nothing. -/
def advance (s : Session σ) (event : ThreadEvent) : Session σ :=
  match s.capture, event with
  | none, _ => s
  | some c, .proceed => s.follow c.proceed
  | some c, .expire => s.follow c.expire
  | some c, .comeBack =>
      match s.pendingRead with
      | none => s
      | some read =>
          if read.held then s else { s with pendingRead := none }.follow (c.returned read)
  | some c, .letGo => if s.gateOpen then s.follow c.letGo else s

/-- What happens to the thread next when nobody else acts and no time goes by: nothing if it has
come to its end, is held, or waits for a grant. -/
def nextEvent? (s : Session σ) : Option ThreadEvent :=
  match s.capture with
  | none => none
  | some c =>
      match c.point with
      | .ended | .brokenDown => none
      | .waiting =>
          if c.data.signals.notFull then some .proceed else none
      | .reading _ => if s.pendingRead.any DeviceRead.held then none else some .comeBack
      | .requesting =>
          match c.requester.request c.priority with
          | .held => if s.gateOpen then some .letGo else none
          | _ => some .proceed
      | _ => some .proceed

/-- Lets the thread go on for at most a number of steps. -/
def settleWithin (s : Session σ) : Nat → Session σ
  | 0 => s
  | steps + 1 =>
      match s.nextEvent? with
      | none => s
      | some event => (s.advance event).settleWithin steps

/-- More steps than a thread takes before it waits, is held or ends: one grant takes it round its
loop once, and it may have been in the middle of a round. -/
def settlingSteps : Nat := 32

def settle (s : Session σ) : Session σ := s.settleWithin settlingSteps

/-- Lets the thread go on for longer than it waits for a grant. -/
def outlast (s : Session σ) : Session σ := (s.settle.advance .expire).settle

/-- Lets go of whatever the capture thread is held in. Later priority requests are not held. -/
def release (s : Session σ) : Session σ :=
  { s with
    gateOpen := true
    pendingRead := s.pendingRead.map fun read => { read with held := false } }

end Session

end AudioCapture
