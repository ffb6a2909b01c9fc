import AudioCapture.Source

/-!
# Device calls

The calls that a session makes to its device, as values, and the text of each: its name and, in
brackets, what it was given.
-/

namespace AudioCapture

inductive DeviceCall where
  | read (offered : Nat)
  | inputFramesLost
  | capturePosition
  | setGain (gain : Gain)
  | parameter (key : String)
  | setParameter (key value : String)
  | sampleRate
  | setSampleRate (rate : UInt32)
  | supportedSampleRates
  | channelMask
  | setChannelMask (mask : ChannelMask)
  | supportedChannelMasks
  | format
  | setFormat (encoding : AudioFormat)
  | supportedFormats
  | audioProperties
  | frameSize
  | bufferSize
  | device
  | setDevice (address : DeviceAddress)
  | setConnectedState (address : DeviceAddress) (connected : Bool)
  | standby
  | start
  | stop
  | close
  deriving DecidableEq, Repr

namespace DeviceCall

def name : DeviceCall → String
  | read .. => "read"
  | inputFramesLost => "input_frames_lost"
  | capturePosition => "capture_position"
  | setGain .. => "set_gain"
  | parameter .. => "parameter"
  | setParameter .. => "set_parameter"
  | sampleRate => "sample_rate"
  | setSampleRate .. => "set_sample_rate"
  | supportedSampleRates => "supported_sample_rates"
  | channelMask => "channel_mask"
  | setChannelMask .. => "set_channel_mask"
  | supportedChannelMasks => "supported_channel_masks"
  | format => "format"
  | setFormat .. => "set_format"
  | supportedFormats => "supported_formats"
  | audioProperties => "audio_properties"
  | frameSize => "frame_size"
  | bufferSize => "buffer_size"
  | device => "device"
  | setDevice .. => "set_device"
  | setConnectedState .. => "set_connected_state"
  | standby => "standby"
  | start => "start"
  | stop => "stop"
  | close => "close"

/-- What the call was given. -/
def details : DeviceCall → String
  | read offered => toString offered
  | setGain gain => toString gain.bits
  | parameter key => key
  | setParameter key value => s!"{key}={value}"
  | setSampleRate rate => toString rate
  | setChannelMask mask => toString mask.bits
  | setFormat encoding => encoding.text
  | setDevice address => s!"{address.device},{address.address}"
  | setConnectedState address connected => s!"{address.device},{address.address},{connected}"
  | inputFramesLost | capturePosition | sampleRate | supportedSampleRates | channelMask
  | supportedChannelMasks | format | supportedFormats | audioProperties | frameSize | bufferSize
  | device | standby | start | stop | close => ""

def text (call : DeviceCall) : String := s!"{call.name}({call.details})"

end DeviceCall

end AudioCapture
