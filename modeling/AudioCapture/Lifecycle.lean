/-!
# Lifecycles

The states of a session (idle, prepared, running, closed) and of the capture thread (created,
running, stopping, exited), each in the order in which they are passed through.
-/

namespace AudioCapture

inductive SessionState where
  | idle
  | prepared
  | running
  | closed
  deriving DecidableEq, Repr

namespace SessionState

def hasTransport : SessionState → Bool
  | prepared | running => true
  | idle | closed => false

def rank : SessionState → Nat
  | idle => 0
  | prepared => 1
  | running => 2
  | closed => 3

def name : SessionState → String
  | idle => "Idle"
  | prepared => "Prepared"
  | running => "Running"
  | closed => "Closed"

end SessionState

inductive WorkerState where
  | created
  | running
  | stopping
  | exited
  deriving DecidableEq, Repr

namespace WorkerState

/-- The number that stands for a state, in the order of the lifecycle. -/
def rank : WorkerState → Nat
  | created => 0
  | running => 1
  | stopping => 2
  | exited => 3

def ofRank : Nat → WorkerState
  | 0 => created
  | 1 => running
  | 2 => stopping
  | _ => exited

def text : WorkerState → String
  | created => "created"
  | running => "running"
  | stopping => "stopping"
  | exited => "exited"

def name : WorkerState → String
  | created => "Created"
  | running => "Running"
  | stopping => "Stopping"
  | exited => "Exited"

@[simp] theorem ofRank_rank (state : WorkerState) : ofRank state.rank = state := by
  cases state <;> rfl

end WorkerState

end AudioCapture
