import AudioCapture.Signal.Basic

/-!
# Waiting for signals

Waiting and waking step by step. A waiter takes the lock, takes its bits and goes away with those it
sees, letting go of the lock; if there are none it lets go of the lock and parks in one step, and
looks again when it is notified or its time is up. A waker sets its bits without the lock, then
takes the lock to notify every parked waiter.
-/

namespace AudioCapture

/-- Where a thread stands in a wait or a wake. -/
inductive SignalThread where
  /-- Wants the lock to look; `last` when its time is up. -/
  | locking (mask : Signals) (last : Bool)
  /-- Has the lock and is about to take its bits. -/
  | looking (mask : Signals) (last : Bool)
  /-- Has the lock, has seen none of its bits, and is about to let go of the lock and park. -/
  | parking (mask : Signals)
  | parked (mask : Signals)
  /-- Has the lock, has taken its bits, and is about to let go of the lock. -/
  | leaving (seen : Signals)
  /-- The wait is over. -/
  | waited (seen : Signals)
  /-- About to set the bits. -/
  | raising (mask : Signals)
  /-- Has set the bits and wants the lock. -/
  | knocking (mask : Signals)
  /-- Has the lock and is about to notify. -/
  | notifying (mask : Signals)
  /-- Has the lock, has notified, and is about to let go of the lock. -/
  | notified
  /-- The wake is over. -/
  | woken
  deriving DecidableEq, Repr

inductive SignalEvent where
  | startWait (mask : Signals)
  | startWake (mask : Signals)
  /-- A thread takes its next step. -/
  | run (thread : Nat)
  /-- The time of a parked thread is up. -/
  | expire (thread : Nat)
  deriving DecidableEq, Repr

/-- The signal word with its lock and the threads at it. -/
structure Monitor where
  word : Signals := {}
  locked : Bool := false
  threads : List SignalThread := []
  deriving DecidableEq, Repr

namespace Monitor

/-- A parked thread wants the lock again when it is notified. -/
def rouse : SignalThread → SignalThread
  | .parked mask => .locking mask false
  | thread => thread

def put (m : Monitor) (thread : Nat) (state : SignalThread) : Monitor :=
  { m with threads := m.threads.set thread state }

def runThread (m : Monitor) (thread : Nat) : SignalThread → Monitor
  | .locking mask last =>
      if m.locked then m else { m with locked := true }.put thread (.looking mask last)
  | .looking mask last =>
      let (left, seen) := m.word.take mask
      { m with word := left }.put thread
        (if seen.isEmpty && !last then .parking mask else .leaving seen)
  | .parking mask => { m with locked := false }.put thread (.parked mask)
  | .leaving seen => { m with locked := false }.put thread (.waited seen)
  | .raising mask => { m with word := m.word.union mask }.put thread (.knocking mask)
  | .knocking mask =>
      if m.locked then m else { m with locked := true }.put thread (.notifying mask)
  | .notifying _ => { m with threads := m.threads.map rouse }.put thread .notified
  | .notified => { m with locked := false }.put thread .woken
  | .parked _ | .waited _ | .woken => m

def step (m : Monitor) : SignalEvent → Monitor
  | .startWait mask =>
      let thread := if mask.isEmpty then .waited .none else .locking mask false
      { m with threads := m.threads ++ [thread] }
  | .startWake mask => { m with threads := m.threads ++ [.raising mask] }
  | .run thread =>
      match m.threads[thread]? with
      | some state => m.runThread thread state
      | none => m
  | .expire thread =>
      match m.threads[thread]? with
      | some (.parked mask) => m.put thread (.locking mask true)
      | _ => m

def run (m : Monitor) (events : List SignalEvent) : Monitor := events.foldl step m

/-- What a thread went away with. -/
def seen (m : Monitor) (thread : Nat) : Signals :=
  match m.threads[thread]? with
  | some (.waited seen) => seen
  | _ => .none

/-- A wait that nobody wakes: a look, and another when the time is up. -/
def waitAlone (word mask : Signals) : Monitor :=
  { word : Monitor }.run
    ([.startWait mask, .run 0, .run 0, .run 0, .expire 0] ++ List.replicate 3 (.run 0))

/-- A wait that another thread wakes while it is parked. -/
def waitWoken (word mask wake : Signals) : Monitor :=
  { word : Monitor }.run
    ([.startWait mask, .startWake wake] ++ List.replicate 3 (.run 0) ++ List.replicate 4 (.run 1) ++
      List.replicate 3 (.run 0) ++ [.expire 0] ++ List.replicate 3 (.run 0))

end Monitor

end AudioCapture
