import AudioCapture.Session.Access
import AudioCapture.Session.Control
import AudioCapture.Session.Thread

/-!
# Calls on a session

Everything that can be asked of a session, as values, and what each answers when nobody but the
capture thread acts meanwhile.

* `perform_of_closed`: a closed session refuses to be closed again, and stays as it is.
-/

namespace AudioCapture

inductive Call where
  | setup (host : Host) (size count : UInt32) (priority : ThreadPriority)
  | start
  | stop
  | state
  | isClosed
  | config
  | diagnostics
  | close
  | frameSize
  | frameCount
  | bufferSize
  | sampleRate
  | supportedSampleRates
  | setSampleRate (rate : UInt32)
  | channelMask
  | setChannelMask (mask : ChannelMask)
  | supportedChannelMasks
  | format
  | setFormat (format : AudioFormat)
  | supportedFormats
  | audioProperties
  | device
  | setDevice (address : DeviceAddress)
  | setConnectedState (address : DeviceAddress) (connected : Bool)
  | standby
  | setGain (gain : Gain)
  | parameters (keys : List String)
  | setParameters (settings : List ParameterValue)
  | inputSource
  | inputFramesLost
  | capturePosition

inductive Answer where
  | done
  | truth (value : Bool)
  | number (value : Nat)
  | rates (values : List UInt32)
  | mask (value : ChannelMask)
  | masks (values : List ChannelMask)
  | format (value : AudioFormat)
  | formats (values : List AudioFormat)
  | properties (value : AudioProperties)
  | address (value : DeviceAddress)
  | settings (values : List ParameterValue)
  | source (value : InputSource)
  | position (value : CapturePosition)
  | state (value : SessionState)
  | config (value : SessionConfig)
  | diagnostics (value : Diagnostics)
  deriving DecidableEq, Repr

/-- How a call ends. -/
inductive CallEnd where
  | answered (answer : Answer)
  | failed (failure : Failure)
  | brokeDown (breakdown : Breakdown)
  deriving DecidableEq, Repr

namespace Session

variable {σ : Type}

/-- Closes the session when the clock shows `now`; `meanwhile` is what happens while the capture
thread is waited for. -/
def closeDuring (s : Session σ) (now : Duration) (meanwhile : Session σ → Session σ) :
    CallEnd × Session σ :=
  match s.beginClose now with
  | (.refused failure, next) => (.failed failure, next)
  | (.brokeDown breakdown, next) => (.brokeDown breakdown, next)
  | (.immediate, next) => (.answered .done, next.endClose none)
  | (.joining timeout, next) => (.answered .done, (meanwhile next).endClose (some timeout))

/-- Closes the session; the capture thread is waited for no less long than it waits itself. -/
def close (s : Session σ) : CallEnd × Session σ := s.closeDuring closingTime outlast

/-- Lets go of the session, which closes one that is not closed. -/
def dropDuring (s : Session σ) (now : Duration) (meanwhile : Session σ → Session σ) :
    CallEnd × Session σ :=
  if s.closed then (.answered .done, s) else s.closeDuring now meanwhile

def drop (s : Session σ) : CallEnd × Session σ := s.dropDuring closingTime outlast

/-- Makes a call and puts its value into the form of an answer. -/
def control {α : Type} (s : Session σ) (call : Control σ α) (form : α → Answer) :
    CallEnd × Session σ :=
  match call.run.run s with
  | (.ok value, next) => (.answered (form value), next)
  | (.error failure, next) => (.failed failure, next)

def perform (s : Session σ) : Call → CallEnd × Session σ
  | .setup host size count priority =>
      s.control (setup host size count priority) fun _ => .done
  | .start => s.control start fun _ => .done
  | .stop => s.control stop fun _ => .done
  | .state =>
      let (state, next) := s.lookAtState
      (.answered (.state state), next)
  | .isClosed => (.answered (.truth s.closed), s)
  | .config => (.answered (.config s.config), s)
  | .diagnostics => (.answered (.diagnostics s.diagnostics), s)
  | .close => s.close
  | .frameSize => s.control frameSize .number
  | .frameCount => s.control frameCount .number
  | .bufferSize => s.control bufferSize .number
  | .sampleRate => s.control sampleRate fun rate => .number rate.toNat
  | .supportedSampleRates => s.control supportedSampleRates .rates
  | .setSampleRate rate => s.control (setSampleRate rate) fun _ => .done
  | .channelMask => s.control channelMask .mask
  | .setChannelMask mask => s.control (setChannelMask mask) fun _ => .done
  | .supportedChannelMasks => s.control supportedChannelMasks .masks
  | .format => s.control format .format
  | .setFormat format => s.control (setFormat format) fun _ => .done
  | .supportedFormats => s.control supportedFormats .formats
  | .audioProperties => s.control audioProperties .properties
  | .device => s.control deviceAddress .address
  | .setDevice address => s.control (setDevice address) fun _ => .done
  | .setConnectedState address connected =>
      s.control (setConnectedState address connected) fun _ => .done
  | .standby => s.control standby fun _ => .done
  | .setGain gain => s.control (setGain gain) fun _ => .done
  | .parameters keys => s.control (parameters keys) .settings
  | .setParameters settings => s.control (setParameters settings) fun _ => .done
  | .inputSource => s.control inputSource .source
  | .inputFramesLost => s.control inputFramesLost fun frames => .number frames.toNat
  | .capturePosition => s.control capturePosition .position

theorem perform_of_closed {s : Session σ} (h : s.closed = true) :
    s.perform .close = (.failed .closed, s) := by
  simp [perform, close, closeDuring, beginClose, h]

end Session

end AudioCapture
