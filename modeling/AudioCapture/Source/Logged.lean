import AudioCapture.Source.Call

/-!
# Logged devices

Any device together with the list of the calls that have reached it. A call is kept whatever comes
of it and goes on to the device as it is.
-/

namespace AudioCapture

structure Logged (σ : Type) where
  device : σ
  /-- The calls so far, the oldest first. -/
  calls : List DeviceCall := []

namespace Logged

variable {σ α : Type}

/-- Keeps a call and passes it on. -/
def pass (call : DeviceCall) (answer : StateM σ α) : StateM (Logged σ) α := fun s =>
  let (value, device) := answer.run s.device
  (value, { device, calls := s.calls ++ [call] })

/-- The same for a call that can be turned down. -/
def passAttempt (call : DeviceCall) (answer : Attempt σ α) : Attempt (Logged σ) α :=
  pass call answer.run

def source (inner : AudioSource σ) : AudioSource (Logged σ) where
  read offered := pass (.read offered) (inner.read offered)
  inputFramesLost := pass .inputFramesLost inner.inputFramesLost
  setGain gain := passAttempt (.setGain gain) (inner.setGain gain)
  parameter key := passAttempt (.parameter key) (inner.parameter key)
  setParameter key value := passAttempt (.setParameter key value) (inner.setParameter key value)
  sampleRate := pass .sampleRate inner.sampleRate
  channelMask := pass .channelMask inner.channelMask
  format := pass .format inner.format
  bufferSize := pass .bufferSize inner.bufferSize
  device := pass .device inner.device
  standby := passAttempt .standby inner.standby
  close := pass .close inner.close
  capturePosition := passAttempt .capturePosition inner.capturePosition
  setSampleRate rate := passAttempt (.setSampleRate rate) (inner.setSampleRate rate)
  supportedSampleRates := pass .supportedSampleRates inner.supportedSampleRates
  setChannelMask mask := passAttempt (.setChannelMask mask) (inner.setChannelMask mask)
  supportedChannelMasks := passAttempt .supportedChannelMasks inner.supportedChannelMasks
  setFormat format := passAttempt (.setFormat format) (inner.setFormat format)
  supportedFormats := passAttempt .supportedFormats inner.supportedFormats
  audioProperties := passAttempt .audioProperties inner.audioProperties
  frameSize := pass .frameSize inner.frameSize
  setDevice address := passAttempt (.setDevice address) (inner.setDevice address)
  setConnectedState address connected :=
    passAttempt (.setConnectedState address connected) (inner.setConnectedState address connected)
  start := passAttempt .start inner.start
  stop := passAttempt .stop inner.stop

@[simp] theorem calls_pass (call : DeviceCall) (answer : StateM σ α) (s : Logged σ) :
    ((pass call answer).run s).2.calls = s.calls ++ [call] := rfl

@[simp] theorem calls_passAttempt (call : DeviceCall) (answer : Attempt σ α) (s : Logged σ) :
    ((passAttempt call answer).run.run s).2.calls = s.calls ++ [call] := rfl

end Logged

end AudioCapture
