import AudioCapture.Parameters
import AudioCapture.Source

/-!
# Simulated devices

A device that needs no hardware: it answers reads from a script and, once that has run out, by a
pattern. After it has been closed it is gone.
-/

namespace AudioCapture

/-- What a read answers when the script has run out. -/
inductive ReadPattern where
  /-- A number of equal bytes, reported however small the buffer is. -/
  | constant (byte : UInt8) (count : UInt64)
  /-- As many of a number of bytes as fit; they count on from one read to the next. -/
  | counting (count : UInt64)
  /-- Nothing, and the script is not looked at either. -/
  | silent
  deriving DecidableEq, Repr

structure Simulated where
  pattern : ReadPattern
  /-- What the next reads transfer, or the status with which they fail. -/
  script : List (Except DeviceStatus (List UInt8)) := []
  /-- The next byte of a counting device. -/
  counter : UInt8 := 0
  gain : Gain := .unity
  sampleRate : UInt32 := 48000
  parameters : Parameters := {}
  position : Option CapturePosition := none
  framesLost : UInt32 := 0
  device : DeviceAddress := ⟨0x80000004, "bottom"⟩
  /-- The last device that came or went. -/
  connection : Option (DeviceAddress × Bool) := none
  started : Bool := false
  /-- How often it has been read. -/
  reads : Nat := 0
  /-- How often it has been closed. -/
  closes : Nat := 0

namespace Simulated

def closed (s : Simulated) : Bool := 0 < s.closes

/-- A read by the pattern alone. -/
def readPattern (s : Simulated) (offered : Nat) : DeviceRead × Simulated :=
  match s.pattern with
  | .constant byte count => (.constant byte count offered, s)
  | .counting count =>
      let length := min count.toNat offered
      (.counting s.counter length, { s with counter := s.counter + .ofNat length })
  | .silent => ({ ending := .transferred 0 }, s)

def answerRead (s : Simulated) (offered : Nat) : DeviceRead × Simulated :=
  if s.closed then ({ ending := .failed .noDevice }, s)
  else if s.pattern = .silent then s.readPattern offered
  else
    match s.script with
    | [] => s.readPattern offered
    | .error status :: rest => ({ ending := .failed status }, { s with script := rest })
    | .ok bytes :: rest =>
        (.ofBytes (bytes.take offered) (.ofNat bytes.length), { s with script := rest })

def read (offered : Nat) : StateM Simulated DeviceRead :=
  modifyGet fun s => { s with reads := s.reads + 1 }.answerRead offered

def source : AudioSource Simulated where
  read := read
  inputFramesLost := modifyGet fun s => (s.framesLost, { s with framesLost := 0 })
  setGain gain :=
    if gain.isAttenuation then modify fun s => { s with gain }
    else throw DeviceStatus.invalidArgument
  parameter key := do
    match (← get).parameters.get? key with
    | some value => return value
    | none => throw DeviceStatus.invalidArgument
  setParameter key value :=
    modify fun s => { s with parameters := s.parameters.set key value }
  sampleRate := return (← get).sampleRate
  setSampleRate rate :=
    if rate = 0 then throw DeviceStatus.invalidArgument
    else modify fun s => { s with sampleRate := rate }
  channelMask := pure .stereo
  supportedChannelMasks := return [.mono, .stereo]
  format := pure .pcm16
  bufferSize := pure 3840
  device := return (← get).device
  setDevice address := modify fun s => { s with device := address }
  setConnectedState address connected :=
    if address.address.isEmpty then throw DeviceStatus.invalidArgument
    else modify fun s => { s with connection := some (address, connected) }
  standby := return ()
  start := modify fun s => { s with started := true }
  stop := do
    if (← get).started then modify fun s => { s with started := false }
    else throw DeviceStatus.noData
  capturePosition := do
    match (← get).position with
    | some position => return position
    | none => .notImplemented
  close := modify fun s => { s with closes := s.closes + 1 }

end Simulated

end AudioCapture
