/-!
# Stream properties

The encoding, channel layout and rate of a captured stream, the device it comes from, and what
the device reports about its progress.
-/

namespace AudioCapture

/-- The encoding of one sample. -/
inductive AudioFormat where
  | pcm16
  | pcm8_24
  | pcm24Packed
  | pcm32
  | pcmFloat
  | other (code : UInt32)
  deriving DecidableEq, Repr

namespace AudioFormat

/-- The bytes of one sample, if the encoding has a fixed width. -/
def bytesPerSample? : AudioFormat → Option Nat
  | pcm16 => some 2
  | pcm24Packed => some 3
  | pcm8_24 | pcm32 | pcmFloat => some 4
  | other _ => none

def text : AudioFormat → String
  | pcm16 => "Pcm16"
  | pcm8_24 => "Pcm8_24"
  | pcm24Packed => "Pcm24Packed"
  | pcm32 => "Pcm32"
  | pcmFloat => "PcmFloat"
  | other code => s!"Other({code})"

end AudioFormat

/-- A channel layout: one bit for each channel. -/
structure ChannelMask where
  bits : UInt32
  deriving DecidableEq, Repr

namespace ChannelMask

def mono : ChannelMask := ⟨0x10⟩
def stereo : ChannelMask := ⟨0x0C⟩

def channelCount (mask : ChannelMask) : Nat :=
  (List.range 32).countP fun channel => mask.bits.toNat.testBit channel

end ChannelMask

structure AudioProperties where
  sampleRate : UInt32
  channelMask : ChannelMask
  format : AudioFormat
  deriving DecidableEq, Repr

/-- The device a stream is routed from. -/
structure DeviceAddress where
  device : UInt32
  address : String
  deriving DecidableEq, Repr

/-- The frames captured so far, and when that was seen. -/
structure CapturePosition where
  frames : UInt64
  timeNs : UInt64
  deriving DecidableEq, Repr

/-- A setting of the device, by key. -/
structure ParameterValue where
  key : String
  value : String
  deriving DecidableEq, Repr

end AudioCapture
