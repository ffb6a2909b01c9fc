import AudioCapture.Duration
import AudioCapture.Lifecycle
import AudioCapture.Priority
import AudioCapture.Status

/-!
# Notices

What the library writes to its log, as causes; the level and the words of each.
-/

namespace AudioCapture

inductive Level where
  | debug
  | warn
  | error
  deriving DecidableEq, Repr

def Level.name : Level → String
  | debug => "DEBUG"
  | warn => "WARN"
  | error => "ERROR"

/-- What stands in a text for the identifier of a transport, which is drawn at random. -/
def transportMark : String := "<id>"

inductive Notice where
  | deviceCallFailed (operation : String) (status : DeviceStatus)
  | writeShort (written reported free : Nat)
  | recordDropped (outcome : ReadOutcome)
  | elevationFailed (priority : ThreadPriority) (error : PriorityError)
  | elevationIgnored (priority : ThreadPriority)
  | setupRepeated
  | dataQueueInvalid (failure : Failure)
  | statusQueueInvalid (failure : Failure)
  | signalGroupInvalid (failure : Failure)
  | threadNotStarted (failure : Failure)
  | prepared (chunkCount chunkSize : Nat) (priority : ThreadPriority)
  | sessionRunning
  | threadLate (timeout : Duration) (state : WorkerState)
  | threadLeft (state : WorkerState)
  | threadBrokeDown
  | released (otherHandles : Nat)
  | sessionClosed
  deriving DecidableEq, Repr

namespace Notice

def level : Notice → Level
  | deviceCallFailed .. | writeShort .. | recordDropped .. | elevationFailed ..
  | threadNotStarted .. => .warn
  | setupRepeated | dataQueueInvalid .. | statusQueueInvalid .. | signalGroupInvalid ..
  | threadLate .. | threadLeft .. | threadBrokeDown => .error
  | elevationIgnored .. | prepared .. | sessionRunning | released .. | sessionClosed => .debug

def words : Notice → String
  | deviceCallFailed operation status => s!"device call {operation} failed: {status.text}"
  | writeShort written reported free =>
      s!"data queue write short: {written} of {reported} bytes ({free} free)"
  | recordDropped outcome => s!"status queue write failed, dropping {outcome.text}"
  | elevationFailed priority error =>
      s!"failed to set capture thread priority {priority.name}: {error.message}"
  | elevationIgnored priority => s!"ignoring priority request {priority.name}"
  | setupRepeated => "setup called twice on the same session"
  | dataQueueInvalid failure => s!"data queue is invalid: {failure.message}"
  | statusQueueInvalid failure => s!"status queue is invalid: {failure.message}"
  | signalGroupInvalid failure =>
      s!"failed creating signal group for data queue: {failure.message}"
  | threadNotStarted failure => s!"failed to start capture thread: {failure.message}"
  | prepared chunkCount chunkSize priority =>
      s!"prepared transport {transportMark} ({chunkCount} x {chunkSize} bytes, " ++
        s!"priority {priority.name})"
  | sessionRunning => "capture session running"
  | threadLate timeout state =>
      s!"capture thread did not exit within {timeout.text} (state: {state.text})"
  | threadLeft state => s!"capture thread exit error: still {state.text}"
  | threadBrokeDown => "capture thread panicked"
  | released otherHandles =>
      s!"released transport {transportMark} ({otherHandles} other handles outstanding)"
  | sessionClosed => "capture session closed"

/-- The line of a log. -/
def line (notice : Notice) : String := s!"{notice.level.name} {notice.words}"

end Notice

/-- What a requester of the library writes itself when it grants a wish. -/
def Requester.notices (requester : Requester) (priority : ThreadPriority) : List Notice :=
  if requester.ignores then [.elevationIgnored priority] else []

end AudioCapture
