import AudioCapture.Parameters
import AudioCapture.Source.Call

/-!
# Scripted devices

A device that does what it is told: every read, every property and every failure can be set, and
the calls that reach it are kept in order. The plain form of it has only the calls that every
device must have.
-/

namespace AudioCapture

/-- What one read of a script comes to. -/
inductive ScriptedEnd where
  /-- Bytes are put into the buffer, as far as they fit, and some number is reported. -/
  | transfers (bytes : List UInt8) (reported : UInt64)
  | fails (status : DeviceStatus)
  | breaksDown
  deriving DecidableEq, Repr

structure ScriptedRead where
  ending : ScriptedEnd
  /-- Whether the read waits until it is let go. -/
  stalls : Bool := false
  deriving DecidableEq, Repr

/-- The read of a device that has room for a number of bytes. -/
def ScriptedRead.deviceRead (read : ScriptedRead) (offered : Nat) : DeviceRead :=
  let answer : DeviceRead :=
    match read.ending with
    | .transfers bytes reported => .ofBytes (bytes.take offered) reported
    | .fails status => { ending := .failed status }
    | .breaksDown => { ending := .brokeDown }
  { answer with held := read.stalls }

/-- What a scripted device does once its script has run out. -/
inductive ScriptedDefault where
  | constant (byte : UInt8) (count : UInt64)
  | counting (count : UInt64)
  | failing (status : DeviceStatus)
  deriving DecidableEq, Repr

structure Scripted where
  script : List ScriptedRead := []
  /-- What reads do when the script has run out. -/
  fallback : ScriptedDefault := .constant 1 4
  counter : UInt8 := 0
  sampleRate : UInt32 := 48000
  rates : Option (List UInt32) := none
  mask : ChannelMask := .stereo
  masks : Option (List ChannelMask) := none
  format : AudioFormat := .pcm16
  formats : Option (List AudioFormat) := none
  frameSize : Option Nat := none
  bufferSize : Nat := 3840
  device : DeviceAddress := ⟨0x80000004, "bottom"⟩
  parameters : Parameters := {}
  position : Option CapturePosition := none
  framesLost : UInt32 := 0
  gain : Gain := .unity
  started : Bool := false
  connection : Option (DeviceAddress × Bool) := none
  /-- The statuses with which calls fail, by the name of the call; a setting of one key goes by
  the name, a colon and the key. -/
  failures : List (String × DeviceStatus) := []
  /-- The calls so far, the oldest first. -/
  calls : List DeviceCall := []

namespace Scripted

/-- The status with which a call fails. -/
def failure? (s : Scripted) (call : DeviceCall) : Option DeviceStatus :=
  match s.failures.lookup call.name with
  | some status => some status
  | none =>
      match call with
      | .setParameter key _ => s.failures.lookup s!"{call.name}:{key}"
      | _ => none

def setFailure (s : Scripted) (name : String) (status? : Option DeviceStatus) : Scripted :=
  let others := s.failures.filter fun entry => entry.1 != name
  { s with failures := (status?.map fun status => (name, status)).toList ++ others }

/-- Keeps a call. -/
def record (call : DeviceCall) : StateM Scripted Unit :=
  modify fun s => { s with calls := s.calls ++ [call] }

/-- Keeps a call and looks at a property. -/
def look {α : Type} (call : DeviceCall) (property : Scripted → α) : StateM Scripted α := do
  record call
  return property (← get)

/-- Keeps a call and goes on with it if it is not to fail. -/
def permit (call : DeviceCall) : Attempt Scripted Unit := do
  record call
  match (← get).failure? call with
  | some status => throw status
  | none => return

def change (call : DeviceCall) (effect : Scripted → Scripted) : Attempt Scripted Unit := do
  permit call
  modify effect

/-- A value that may be missing. -/
def report {α : Type} (call : DeviceCall) (missing : DeviceStatus)
    (property? : Scripted → Option α) : Attempt Scripted α := do
  permit call
  match property? (← get) with
  | some value => return value
  | none => throw missing

/-! ## Reads -/

def readFallback (s : Scripted) (offered : Nat) : DeviceRead × Scripted :=
  match s.fallback with
  | .constant byte count => (.constant byte count offered, s)
  | .counting count =>
      let length := min count.toNat offered
      (.counting s.counter length, { s with counter := s.counter + .ofNat length })
  | .failing status => ({ ending := .failed status }, s)

def answerRead (s : Scripted) (offered : Nat) : DeviceRead × Scripted :=
  match s.failure? (.read offered), s.script with
  | some status, _ => ({ ending := .failed status }, s)
  | none, item :: rest =>
      (item.deviceRead offered, { s with script := rest })
  | none, [] => s.readFallback offered

def read (offered : Nat) : StateM Scripted DeviceRead := do
  record (.read offered)
  modifyGet fun s => s.answerRead offered

/-! ## The source -/

/-- The device with the calls alone that every device must have. -/
def plain : AudioSource Scripted where
  read := read
  inputFramesLost := do
    record .inputFramesLost
    modifyGet fun s => (s.framesLost, { s with framesLost := 0 })
  setGain gain := change (.setGain gain) fun s => { s with gain }
  parameter key := report (.parameter key) .invalidArgument fun s => s.parameters.get? key
  setParameter key value := change (.setParameter key value) fun s =>
    { s with parameters := s.parameters.set key value }
  sampleRate := look .sampleRate Scripted.sampleRate
  channelMask := look .channelMask Scripted.mask
  format := look .format Scripted.format
  bufferSize := look .bufferSize Scripted.bufferSize
  device := look .device Scripted.device
  standby := permit .standby
  close := record .close

/-- The device with all calls. -/
def full : AudioSource Scripted :=
  { plain with
    capturePosition := report .capturePosition .notImplemented Scripted.position
    setSampleRate := fun rate => change (.setSampleRate rate) fun s => { s with sampleRate := rate }
    supportedSampleRates := do
      match ← look .supportedSampleRates Scripted.rates with
      | some rates => return rates
      | none => plain.supportedSampleRates
    setChannelMask := fun mask => change (.setChannelMask mask) fun s => { s with mask }
    supportedChannelMasks := report .supportedChannelMasks .notImplemented Scripted.masks
    setFormat := fun format => change (.setFormat format) fun s => { s with format }
    supportedFormats := report .supportedFormats .notImplemented Scripted.formats
    audioProperties := do
      permit .audioProperties
      plain.audioProperties
    frameSize := do
      match ← look .frameSize Scripted.frameSize with
      | some size => return size
      | none => plain.frameSize
    setDevice := fun address => change (.setDevice address) fun s => { s with device := address }
    setConnectedState := fun address connected =>
      change (.setConnectedState address connected) fun s =>
        { s with connection := some (address, connected) }
    start := change .start fun s => { s with started := true }
    stop := do
      permit .stop
      if (← get).started then modify fun s => { s with started := false }
      else throw DeviceStatus.noData }

end Scripted

end AudioCapture
