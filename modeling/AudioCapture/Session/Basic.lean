import AudioCapture.Capture.Step
import AudioCapture.Config
import AudioCapture.Source

/-!
# Sessions

A session owns a device and, once it is prepared, the one transport it ever makes. The structure
holds the session together with what it works on: the state of the device, the transport with its
thread and its consumer, and what has been logged.

* `Control`: a call that can fail, with what it leaves behind also when it does.
-/

namespace AudioCapture

structure Session (σ : Type) where
  config : SessionConfig
  requester : Requester := .ignoring
  source : AudioSource σ
  /-- The state of the device. -/
  device : σ
  state : SessionState := .idle
  closed : Bool := false
  /-- Whether the session still has the device. -/
  holdsSource : Bool := true
  /-- Whether the session still has its end of a transport. -/
  holdsTransport : Bool := false
  /-- The counts of a capture thread that has been let go. -/
  lastDiagnostics : Option Diagnostics := none
  /-- The transport that was made; it outlives the session while somebody uses it. -/
  capture : Option Capture := none
  /-- Whether the consumer still has its end of the transport. -/
  holdsReader : Bool := false
  /-- The device read that the capture thread is in. -/
  pendingRead : Option DeviceRead := none
  /-- Whether a requester that holds its callers lets them go. -/
  gateOpen : Bool := false
  /-- The priorities asked for, the oldest first. -/
  requests : List ThreadPriority := []
  /-- What the calling thread has logged, the oldest first. -/
  log : List Notice := []
  /-- What the capture thread has logged. -/
  threadLog : List Notice := []

/-- A call on a session. -/
abbrev Control (σ : Type) := ExceptT Failure (StateM (Session σ))

namespace Session

variable {σ : Type}

/-- A new session, if its configuration is acceptable. -/
def create (source : AudioSource σ) (device : σ) (config : SessionConfig) :
    Except Failure (Session σ) :=
  match config.fault? with
  | some fault => .error (.invalidArguments fault.message)
  | none => .ok { config, source, device }

def note (s : Session σ) (notice : Notice) : Session σ := { s with log := s.log ++ [notice] }

/-- Asks the device, if the session still has it. -/
def ask {α : Type} (question : AudioSource σ → StateM σ α) : Control σ α := fun s =>
  if s.holdsSource then
    let (answer, device) := (question s.source).run s.device
    (.ok answer, { s with device })
  else (.error .closed, s)

/-- Makes a device call that can fail, under the name it is reported with. -/
def attempt {α : Type} (operation : String) (call : AudioSource σ → Attempt σ α) :
    Control σ α := fun s =>
  if s.holdsSource then
    match (call s.source).run.run s.device with
    | (.ok value, device) => (.ok value, { s with device })
    | (.error status, device) =>
        (.error (status.toFailure operation),
          { s with device }.note (.deviceCallFailed operation status))
  else (.error .closed, s)

/-- Refuses a session that no longer has its device. -/
def requireSource : Control σ Unit := ask fun _ => pure ()

end Session

end AudioCapture
