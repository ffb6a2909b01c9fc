import AudioCapture.ReadBuffer
import AudioCapture.Status
import AudioCapture.Stream

/-!
# Audio sources

What a capture session needs of a device. A source answers calls and keeps a state of its own
between them; a call that can be turned down answers with a device status instead of a value.

* `supportedSampleRates`, `audioProperties`, `frameSize` have an answer that is put together from
  other calls; the calls that a device may lack answer that they are not implemented.
-/

namespace AudioCapture

/-- The amplification of a stream, by the bits of a 32-bit floating-point number. -/
structure Gain where
  bits : UInt32
  deriving DecidableEq, Repr

namespace Gain

def unity : Gain := ⟨0x3F800000⟩

/-- Whether the number lies between zero and one: the bits of the positive numbers are ordered as
the numbers are, and zero has a second form with a sign. -/
def isAttenuation (gain : Gain) : Bool := gain.bits ≤ unity.bits || gain.bits == 0x80000000

end Gain

/-! ## Reads -/

/-- How a read of the device ends. -/
inductive ReadEnd where
  /-- The number of bytes the device says it has transferred, whatever the buffer could hold. -/
  | transferred (count : UInt64)
  | failed (status : DeviceStatus)
  /-- The read breaks down, and the thread with it. -/
  | brokeDown
  deriving DecidableEq, Repr

/-- What one read of the device does. -/
structure DeviceRead where
  /-- What it makes of the buffer. -/
  fill : ReadBuffer → ReadBuffer := id
  ending : ReadEnd
  /-- The read does not come back until it is let go. -/
  held : Bool := false

namespace DeviceRead

/-- A read that stores bytes and reports some number of them. -/
def ofBytes (bytes : List UInt8) (reported : UInt64) : DeviceRead :=
  let bytes := bytes.toArray
  { fill := fun buffer => buffer.overlay bytes, ending := .transferred reported }

/-- A read that fills the offered part of the buffer with as many equal bytes as it can of the
number that it reports. -/
def constant (byte : UInt8) (reported : UInt64) (offered : Nat) : DeviceRead :=
  let length := min reported.toNat offered
  { fill := fun buffer => buffer.flood length byte, ending := .transferred reported }

/-- A read of bytes that count on from a start. -/
def counting (start : UInt8) (length : Nat) : DeviceRead :=
  { fill := fun buffer => buffer.count length start, ending := .transferred (.ofNat length) }

end DeviceRead

/-! ## Sources -/

/-- Calls that the device may turn down with a status. -/
abbrev Attempt (σ : Type) := ExceptT DeviceStatus (StateM σ)

def Attempt.notImplemented {σ α : Type} : Attempt σ α := throw .notImplemented

structure AudioSource (σ : Type) where
  /-- Reads into a buffer that has room for a number of bytes. -/
  read : Nat → StateM σ DeviceRead
  /-- The frames lost since this was last asked. -/
  inputFramesLost : StateM σ UInt32
  setGain : Gain → Attempt σ Unit
  parameter : String → Attempt σ String
  setParameter : String → String → Attempt σ Unit
  sampleRate : StateM σ UInt32
  channelMask : StateM σ ChannelMask
  format : StateM σ AudioFormat
  /-- The size of the device's own buffer in bytes. -/
  bufferSize : StateM σ Nat
  device : StateM σ DeviceAddress
  standby : Attempt σ Unit
  /-- Releases the device. -/
  close : StateM σ Unit
  capturePosition : Attempt σ CapturePosition := .notImplemented
  setSampleRate : UInt32 → Attempt σ Unit := fun _ => .notImplemented
  supportedSampleRates : StateM σ (List UInt32) := do return [← sampleRate]
  setChannelMask : ChannelMask → Attempt σ Unit := fun _ => .notImplemented
  supportedChannelMasks : Attempt σ (List ChannelMask) := .notImplemented
  setFormat : AudioFormat → Attempt σ Unit := fun _ => .notImplemented
  supportedFormats : Attempt σ (List AudioFormat) := .notImplemented
  audioProperties : Attempt σ AudioProperties := do
    let rate ← sampleRate
    let mask ← channelMask
    let format ← format
    return ⟨rate, mask, format⟩
  /-- The bytes of one sample of every channel; at least one. -/
  frameSize : StateM σ Nat := do
    let format ← format
    let mask ← channelMask
    return format.bytesPerSample?.getD 1 * max mask.channelCount 1
  setDevice : DeviceAddress → Attempt σ Unit := fun _ => .notImplemented
  setConnectedState : DeviceAddress → Bool → Attempt σ Unit := fun _ _ => .notImplemented
  start : Attempt σ Unit := .notImplemented
  stop : Attempt σ Unit := .notImplemented

end AudioCapture
