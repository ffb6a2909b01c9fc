import AudioCapture.InputSource
import AudioCapture.Parameters
import AudioCapture.Session.Basic

/-!
# Properties of a session's device

The calls of a session that go to its device: each needs the device to be there, and a device
status that says no becomes a failure of the session.

* `parameters` and `setParameters` go through their lists in order and stop at the first failure.
-/

namespace AudioCapture

namespace Session

variable {σ : Type}

def frameSize : Control σ Nat := ask AudioSource.frameSize

/-- How many whole frames the buffer of the device holds. -/
def frameCount : Control σ Nat := do
  let bytes ← ask AudioSource.bufferSize
  let frame ← ask AudioSource.frameSize
  return bytes / max frame 1

def bufferSize : Control σ Nat := ask AudioSource.bufferSize

def sampleRate : Control σ UInt32 := ask AudioSource.sampleRate

def supportedSampleRates : Control σ (List UInt32) := ask AudioSource.supportedSampleRates

def setSampleRate (rate : UInt32) : Control σ Unit :=
  attempt "set_sample_rate" fun source => source.setSampleRate rate

def channelMask : Control σ ChannelMask := ask AudioSource.channelMask

def setChannelMask (mask : ChannelMask) : Control σ Unit :=
  attempt "set_channel_mask" fun source => source.setChannelMask mask

def supportedChannelMasks : Control σ (List ChannelMask) :=
  attempt "get_supported_channel_masks" AudioSource.supportedChannelMasks

def format : Control σ AudioFormat := ask AudioSource.format

def setFormat (format : AudioFormat) : Control σ Unit :=
  attempt "set_format" fun source => source.setFormat format

def supportedFormats : Control σ (List AudioFormat) :=
  attempt "get_supported_formats" AudioSource.supportedFormats

def audioProperties : Control σ AudioProperties :=
  attempt "get_audio_properties" AudioSource.audioProperties

def deviceAddress : Control σ DeviceAddress := ask AudioSource.device

def setDevice (address : DeviceAddress) : Control σ Unit :=
  attempt "set_device" fun source => source.setDevice address

/-- Tells the device that another one was connected or disconnected. -/
def setConnectedState (address : DeviceAddress) (connected : Bool) : Control σ Unit :=
  attempt "set_connected_state" fun source => source.setConnectedState address connected

def standby : Control σ Unit := attempt "standby" AudioSource.standby

def setGain (gain : Gain) : Control σ Unit :=
  attempt "set_gain" fun source => source.setGain gain

def parameter (key : String) : Control σ String :=
  attempt "get_parameters" fun source => source.parameter key

/-- The settings of a list of keys, as far as the first that the device does not give. -/
def parametersOf : List String → Control σ (List ParameterValue)
  | [] => return []
  | key :: keys => do
      let value ← parameter key
      return ⟨key, value⟩ :: (← parametersOf keys)

def parameters (keys : List String) : Control σ (List ParameterValue) := do
  requireSource
  parametersOf keys

def setParameter (setting : ParameterValue) : Control σ Unit :=
  attempt "set_parameters" fun source => source.setParameter setting.key setting.value

/-- Makes settings one after the other, as far as the first that the device refuses. -/
def setParametersOf : List ParameterValue → Control σ Unit
  | [] => return
  | setting :: settings => do
      setParameter setting
      setParametersOf settings

def setParameters (settings : List ParameterValue) : Control σ Unit := do
  requireSource
  setParametersOf settings

/-- What the device says it is capturing for. -/
def inputSource : Control σ InputSource := do
  let raw ← parameter InputSource.parameterKey
  match InputSource.ofText raw with
  | .ok source => return source
  | .error failure => throw failure

def inputFramesLost : Control σ UInt32 := ask AudioSource.inputFramesLost

def capturePosition : Control σ CapturePosition :=
  attempt "get_capture_position" AudioSource.capturePosition

end Session

end AudioCapture
