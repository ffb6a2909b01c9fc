import AudioCapture.Capture.View
import AudioCapture.Session.Call

/-!
# A session on the bench

A session with its consumer, driven one call at a time. The capture thread goes on after each call
until it has nothing left to do, so what a call shows does not depend on when it is made.

* `settled`: calls are always made on a session whose thread has come to rest.
-/

namespace AudioCapture

structure Bench (σ : Type) where
  session : Session σ
  /-- Whether the session has been let go. -/
  dropped : Bool := false

namespace Bench

variable {σ : Type}

def settled (b : Bench σ) (session : Session σ) : Bench σ := { b with session := session.settle }

/-- Forgets what has been logged. -/
def clearLogs (b : Bench σ) : Bench σ :=
  { b with session := { b.session with log := [], threadLog := [] } }

/-- The lines that the calling thread has written. -/
def lines (b : Bench σ) : List String := b.session.log.map Notice.line

/-- The lines that the capture thread has written, warnings and worse. -/
def threadLines (b : Bench σ) : List String :=
  (b.session.threadLog.filter fun notice => notice.level != .debug).map Notice.line

/-! ## The session -/

/-- Makes a call, if there is still a session. -/
def call (b : Bench σ) (call : Call) : Option CallEnd × Bench σ :=
  if b.dropped then (none, b)
  else
    let (outcome, session) := b.session.perform call
    (some outcome, b.settled session)

/-- Whether the capture thread is in its wait with nothing to do. -/
def isIdle (b : Bench σ) : Option Bool :=
  if b.dropped then none else some (b.session.thread?.any Capture.isIdle)

/-- Lets go of the session; also whether there was one. -/
def drop (b : Bench σ) : Bool × CallEnd × Bench σ :=
  if b.dropped then (false, .answered .done, b)
  else
    let (outcome, session) := b.session.drop
    (true, outcome, { b.settled session with dropped := true })

/-- The end of a run: whatever holds the thread of an open session lets it go, and the session is
let go. The thread takes no step between the two, so it finds that it is to stop. -/
def finish (b : Bench σ) : Bench σ :=
  if b.dropped then b
  else
    let session := if b.session.closed then b.session else b.session.release
    ({ b with session }.clearLogs.drop).2.2

/-! ## The device -/

def onDevice (b : Bench σ) (change : σ → σ) : Bench σ :=
  { b with session := { b.session with device := change b.session.device } }

/-- Lets go of whatever the capture thread is held in. -/
def release (b : Bench σ) : Bench σ := b.settled b.session.release

/-- The names of the priorities asked for, unless nobody listens to them. -/
def requests (b : Bench σ) : List String :=
  if b.session.requester.ignores then []
  else b.session.requests.map ThreadPriority.name

/-! ## The consumer -/

/-- The transport, if the consumer still has its end of it. -/
def consumer? (b : Bench σ) : Option Capture :=
  if b.session.holdsReader then b.session.capture else none

def withCapture (b : Bench σ) (capture : Capture) : Bench σ :=
  { b with session := { b.session with capture := some capture } }

/-- Does something with the consumer's end. -/
def consume {α : Type} (b : Bench σ) (act : Capture → Capture × α) : Option α × Bench σ :=
  match b.consumer? with
  | none => (none, b)
  | some c =>
      let (next, value) := act c
      (some value, b.withCapture next)

/-- Grants space and lets the capture thread go on. -/
def requestSpace (b : Bench σ) : Option Unit × Bench σ :=
  let (done, next) := b.consume fun c => (c.requestSpace, ())
  (done, next.settled next.session)

/-- Takes an old signal, grants space and looks for a new signal. -/
def pump (b : Bench σ) : Option (Bool × Bool) × Bench σ :=
  let (stale?, looked) := b.consume Capture.takeData
  let (_, granted) := looked.requestSpace
  let (signaled?, next) := granted.consume Capture.takeData
  (stale?.bind fun stale => signaled?.map fun signaled => (stale, signaled), next)

/-- Gives up the consumer's end. -/
def leave (b : Bench σ) : Option Unit × Bench σ :=
  match b.consumer? with
  | none => (none, b)
  | some _ => (some (), { b with session := { b.session with holdsReader := false } })

end Bench

end AudioCapture
