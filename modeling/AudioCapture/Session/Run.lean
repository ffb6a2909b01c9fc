import AudioCapture.Session.Call

/-!
# Runs of a session

A session in use: calls from the thread that owns it, steps of its capture thread, and what its
consumer does, in any order.

* `run_append`: runs can be cut anywhere.
-/

namespace AudioCapture

/-- What a consumer does with its end of the transport. -/
inductive ConsumerEvent where
  | requestSpace
  /-- Looks whether there are new data. -/
  | takeData
  | drain (most : Nat)
  | nextRecord
  /-- Gives up its end. -/
  | leave
  deriving DecidableEq, Repr

/-- What happens beside the thread that owns the session. -/
inductive AsideEvent where
  | thread (event : ThreadEvent)
  | consumer (event : ConsumerEvent)
  /-- Whatever the capture thread is held in lets it go. -/
  | release
  deriving DecidableEq, Repr

inductive SessionEvent where
  | call (call : Call)
  /-- Changes what passes on the wish of a capture thread that is set up later. -/
  | equip (requester : Requester)
  /-- Closes the session when the clock shows `now`; the rest happens while the capture thread is
  waited for. -/
  | close (now : Duration) (meanwhile : List AsideEvent)
  | aside (event : AsideEvent)

/-- What the clock shows when an event closes the session, if it does. -/
def SessionEvent.closesAt? : SessionEvent → Option Duration
  | .call .close => some Session.closingTime
  | .close now _ => some now
  | _ => none

/-- What an event shows to those who make it happen. -/
structure SessionReply where
  /-- How a call ends. -/
  ending : Option CallEnd := none
  /-- What the consumer sees of what it does. -/
  seen : List CaptureReply := []
  deriving DecidableEq, Repr

namespace Session

variable {σ : Type}

/-- What a consumer does; nothing without its end of the transport. -/
def consume (s : Session σ) (event : ConsumerEvent) : Session σ :=
  match s.holdsReader, s.capture with
  | true, some c =>
      match event with
      | .requestSpace => { s with capture := some c.requestSpace }
      | .takeData => { s with capture := some c.takeData.1 }
      | .drain most => { s with capture := some (c.drain most).1 }
      | .nextRecord => { s with capture := some c.nextRecord.1 }
      | .leave => { s with holdsReader := false }
  | _, _ => s

def happen (s : Session σ) : AsideEvent → Session σ
  | .thread event => s.advance event
  | .consumer event => s.consume event
  | .release => s.release

def happenAll (s : Session σ) (events : List AsideEvent) : Session σ := events.foldl happen s

def step (s : Session σ) : SessionEvent → Session σ
  | .call call => (s.perform call).2
  | .equip requester => { s with requester }
  | .close now meanwhile => (s.closeDuring now fun next => next.happenAll meanwhile).2
  | .aside event => s.happen event

def run (s : Session σ) (events : List SessionEvent) : Session σ := events.foldl step s

/-! ## Replies -/

/-- What a consumer sees of what it does. -/
def consumed (s : Session σ) (event : ConsumerEvent) : CaptureReply :=
  match s.holdsReader, s.capture with
  | true, some c =>
      match event with
      | .takeData => (c.step (.take .dataReady)).2
      | .drain most => (c.step (.drain most)).2
      | .nextRecord => (c.step .nextRecord).2
      | .requestSpace | .leave => {}
  | _, _ => {}

/-- What the consumer sees of what happens beside the thread that owns the session. -/
def seen (s : Session σ) : AsideEvent → List CaptureReply
  | .consumer event => [s.consumed event]
  | .thread _ | .release => []

def seenAll (s : Session σ) : List AsideEvent → List CaptureReply
  | [] => []
  | event :: events => s.seen event ++ (s.happen event).seenAll events

/-- What the consumer sees while a session that is being closed waits for its thread. -/
def seenMeanwhile (meanwhile : List AsideEvent) : Closing × Session σ → List CaptureReply
  | (.joining _, next) => next.seenAll meanwhile
  | _ => []

def reply (s : Session σ) : SessionEvent → SessionReply
  | .call call => { ending := some (s.perform call).1 }
  | .equip _ => {}
  | .close now meanwhile =>
      { ending := some (s.closeDuring now fun next => next.happenAll meanwhile).1
        seen := seenMeanwhile meanwhile (s.beginClose now) }
  | .aside event => { seen := s.seen event }

/-- The replies of a run, in order. -/
def replies (s : Session σ) : List SessionEvent → List SessionReply
  | [] => []
  | event :: events => s.reply event :: (s.step event).replies events

@[simp] theorem run_nil (s : Session σ) : s.run [] = s := rfl

@[simp] theorem run_cons (s : Session σ) (event : SessionEvent) (events : List SessionEvent) :
    s.run (event :: events) = (s.step event).run events := rfl

theorem run_append (s : Session σ) (first second : List SessionEvent) :
    s.run (first ++ second) = (s.run first).run second :=
  List.foldl_append

end Session

end AudioCapture
