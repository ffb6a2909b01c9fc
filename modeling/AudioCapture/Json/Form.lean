import AudioCapture.Config
import AudioCapture.Diagnostics
import AudioCapture.InputSource
import AudioCapture.Json.Read
import AudioCapture.Json.Write
import AudioCapture.Priority
import AudioCapture.Stream

/-!
# JSON forms

The shape that the values of a type have in JSON, and how they are taken apart and put together:
one instance for every type of the library that is written down so.

* `ofData_toData` holds of every form: nothing is lost on the way to data and back.
-/

namespace AudioCapture

open Json

/-- A type with a form in JSON. -/
class JsonForm (α : Type) where
  shape : Shape
  toData : α → Data
  ofData : Data → α
  fits (value : α) : shape.Fits (toData value)
  ofData_toData (value : α) : ofData (toData value) = value

namespace JsonForm

/-- Reads a value from the whole of a text. -/
def parse (α : Type) [JsonForm α] (text : String) : Except Fault α :=
  (read (shape α) text).map ofData

def render {α : Type} [JsonForm α] (value : α) : String := write (shape α) (toData value)

end JsonForm

namespace Json

/-- The integer of a datum that holds one. -/
def Datum.int : Datum → Int
  | integer value => value
  | _ => 0

def Datum.bool : Datum → Bool
  | flag value => value
  | _ => false

def Datum.string : Datum → String
  | text value => value
  | _ => ""

/-- The field of a record by its place. -/
def Data.field (data : Data) (index : Nat) : Datum :=
  match data with
  | record fields => fields.getD index default
  | scalar datum => datum

/-- The name of a variant. -/
def Datum.variantName : Datum → String
  | variant name _ => name
  | _ => ""

/-- The integer that a variant carries, if it carries one. -/
def Datum.payload? : Datum → Option Int
  | variant _ payload => payload
  | _ => none

/-- The variants of a type that carry nothing, by their names. -/
def plainVariants (names : List String) : List Variant := names.map fun name => { name }

end Json

theorem word32_holds (value : UInt32) : IntegerKind.word32.Holds (value.toNat : Int) := by
  have := value.toNat_lt
  simp only [IntegerKind.Holds, IntegerKind.word32]
  omega

theorem word64_holds (value : UInt64) : IntegerKind.word64.Holds (value.toNat : Int) := by
  have := value.toNat_lt
  simp only [IntegerKind.Holds, IntegerKind.word64]
  omega

theorem size_holds (value : UInt64) : IntegerKind.size.Holds (value.toNat : Int) :=
  word64_holds value

theorem signed32_holds (value : Int32) : IntegerKind.signed32.Holds value.toInt := by
  have := value.toInt_lt
  have := value.le_toInt
  simp only [IntegerKind.Holds, IntegerKind.signed32]
  omega

/-! ## Values with a name -/

def ThreadPriority.key : ThreadPriority → String
  | normal => "normal"
  | audio => "audio"
  | urgent => "urgent"

def ThreadPriority.form : Scalar := .choice (plainVariants ["normal", "audio", "urgent"])

def ThreadPriority.ofDatum (datum : Datum) : ThreadPriority :=
  if datum.variantName = "audio" then .audio
  else if datum.variantName = "urgent" then .urgent
  else .normal

instance : JsonForm ThreadPriority where
  shape := .scalar ThreadPriority.form
  toData priority := .scalar (.variant priority.key none)
  ofData data := .ofDatum (data.field 0)
  fits priority := by
    cases priority <;>
      simp [Shape.Fits, ThreadPriority.form, Scalar.Fits, plainVariants, ThreadPriority.key]
  ofData_toData priority := by cases priority <;> decide

def ResultCode.form : Scalar :=
  .choice (plainVariants
    ["Ok", "NotInitialized", "InvalidArguments", "InvalidState", "NotSupported", "Io"])

def ResultCode.ofDatum (datum : Datum) : ResultCode :=
  if datum.variantName = "NotInitialized" then .notInitialized
  else if datum.variantName = "InvalidArguments" then .invalidArguments
  else if datum.variantName = "InvalidState" then .invalidState
  else if datum.variantName = "NotSupported" then .notSupported
  else if datum.variantName = "Io" then .io
  else .ok

theorem ResultCode.form_fits (code : ResultCode) :
    ResultCode.form.Fits (.variant code.name none) := by
  cases code <;> simp [ResultCode.form, Scalar.Fits, plainVariants, ResultCode.name]

theorem ResultCode.ofDatum_name (code : ResultCode) :
    ResultCode.ofDatum (.variant code.name none) = code := by
  cases code <;> decide

instance : JsonForm ResultCode where
  shape := .scalar ResultCode.form
  toData code := .scalar (.variant code.name none)
  ofData data := .ofDatum (data.field 0)
  fits code := code.form_fits
  ofData_toData code := code.ofDatum_name

instance : JsonForm SessionState where
  shape := .scalar (.choice (plainVariants ["Idle", "Prepared", "Running", "Closed"]))
  toData state := .scalar (.variant state.name none)
  ofData data :=
    let name := (data.field 0).variantName
    if name = "Prepared" then .prepared
    else if name = "Running" then .running
    else if name = "Closed" then .closed
    else .idle
  fits state := by
    cases state <;> simp [Shape.Fits, Scalar.Fits, plainVariants, SessionState.name]
  ofData_toData state := by cases state <;> decide

instance : JsonForm WorkerState where
  shape := .scalar (.choice (plainVariants ["Created", "Running", "Stopping", "Exited"]))
  toData state := .scalar (.variant state.name none)
  ofData data :=
    let name := (data.field 0).variantName
    if name = "Running" then .running
    else if name = "Stopping" then .stopping
    else if name = "Exited" then .exited
    else .created
  fits state := by
    cases state <;> simp [Shape.Fits, Scalar.Fits, plainVariants, WorkerState.name]
  ofData_toData state := by cases state <;> decide

/-! ## Values with a name or a number -/

def AudioFormat.variants : List Variant :=
  plainVariants ["Pcm16", "Pcm8_24", "Pcm24Packed", "Pcm32", "PcmFloat"] ++
    [{ name := "Other", payload := some .word32 }]

def AudioFormat.toDatum : AudioFormat → Datum
  | pcm16 => .variant "Pcm16" none
  | pcm8_24 => .variant "Pcm8_24" none
  | pcm24Packed => .variant "Pcm24Packed" none
  | pcm32 => .variant "Pcm32" none
  | pcmFloat => .variant "PcmFloat" none
  | other code => .variant "Other" (some (code.toNat : Int))

def AudioFormat.ofDatum (datum : Datum) : AudioFormat :=
  match datum.payload? with
  | some code => .other (.ofNat code.toNat)
  | none =>
      if datum.variantName = "Pcm8_24" then .pcm8_24
      else if datum.variantName = "Pcm24Packed" then .pcm24Packed
      else if datum.variantName = "Pcm32" then .pcm32
      else if datum.variantName = "PcmFloat" then .pcmFloat
      else .pcm16

theorem AudioFormat.fits_toDatum (format : AudioFormat) :
    (Scalar.choice AudioFormat.variants).Fits format.toDatum := by
  cases format with
  | other code =>
      have held := word32_holds code
      simp [Scalar.Fits, AudioFormat.variants, AudioFormat.toDatum, plainVariants, held]
  | _ => simp [Scalar.Fits, AudioFormat.variants, AudioFormat.toDatum, plainVariants]

theorem AudioFormat.ofDatum_toDatum (format : AudioFormat) :
    AudioFormat.ofDatum format.toDatum = format := by
  cases format with
  | other code => simp [AudioFormat.ofDatum, AudioFormat.toDatum, Datum.payload?]
  | _ => decide

instance : JsonForm AudioFormat where
  shape := .scalar (.choice AudioFormat.variants)
  toData format := .scalar format.toDatum
  ofData data := .ofDatum (data.field 0)
  fits format := format.fits_toDatum
  ofData_toData format := format.ofDatum_toDatum

def InputSource.variants : List Variant :=
  plainVariants
    ["Default", "Mic", "VoiceUplink", "VoiceDownlink", "VoiceCall", "Camcorder",
      "VoiceRecognition", "VoiceCommunication", "RemoteSubmix", "Unprocessed"] ++
    [{ name := "Other", payload := some .signed32 }]

def InputSource.toDatum : InputSource → Datum
  | default => .variant "Default" none
  | mic => .variant "Mic" none
  | voiceUplink => .variant "VoiceUplink" none
  | voiceDownlink => .variant "VoiceDownlink" none
  | voiceCall => .variant "VoiceCall" none
  | camcorder => .variant "Camcorder" none
  | voiceRecognition => .variant "VoiceRecognition" none
  | voiceCommunication => .variant "VoiceCommunication" none
  | remoteSubmix => .variant "RemoteSubmix" none
  | unprocessed => .variant "Unprocessed" none
  | other number => .variant "Other" (some number.toInt)

def InputSource.ofDatum (datum : Datum) : InputSource :=
  match datum.payload? with
  | some number => .other (.ofInt number)
  | none =>
      if datum.variantName = "Mic" then .mic
      else if datum.variantName = "VoiceUplink" then .voiceUplink
      else if datum.variantName = "VoiceDownlink" then .voiceDownlink
      else if datum.variantName = "VoiceCall" then .voiceCall
      else if datum.variantName = "Camcorder" then .camcorder
      else if datum.variantName = "VoiceRecognition" then .voiceRecognition
      else if datum.variantName = "VoiceCommunication" then .voiceCommunication
      else if datum.variantName = "RemoteSubmix" then .remoteSubmix
      else if datum.variantName = "Unprocessed" then .unprocessed
      else .default

instance : JsonForm InputSource where
  shape := .scalar (.choice InputSource.variants)
  toData source := .scalar source.toDatum
  ofData data := .ofDatum (data.field 0)
  fits source := by
    cases source with
    | other number =>
        have held := signed32_holds number
        simp [Shape.Fits, Scalar.Fits, InputSource.variants, InputSource.toDatum, plainVariants,
          held]
    | _ =>
        simp [Shape.Fits, Scalar.Fits, InputSource.variants, InputSource.toDatum, plainVariants]
  ofData_toData source := by
    cases source with
    | other number =>
        simp [InputSource.ofDatum, InputSource.toDatum, Data.field, Datum.payload?]
    | _ => decide

instance : JsonForm ChannelMask where
  shape := .scalar (.integer .word32)
  toData mask := .scalar (.integer mask.bits.toNat)
  ofData data := ⟨.ofNat (data.field 0).int.toNat⟩
  fits mask := word32_holds mask.bits
  ofData_toData mask := by simp [Data.field, Datum.int]

/-! ## Records -/

instance : JsonForm AudioProperties where
  shape := .record
    { name := "AudioProperties"
      fields := [
        { name := "sample_rate", scalar := .integer .word32 },
        { name := "channel_mask", scalar := .integer .word32 },
        { name := "format", scalar := .choice AudioFormat.variants }] }
  toData properties := .record
    [.integer properties.sampleRate.toNat, .integer properties.channelMask.bits.toNat,
      properties.format.toDatum]
  ofData data :=
    { sampleRate := .ofNat (data.field 0).int.toNat
      channelMask := ⟨.ofNat (data.field 1).int.toNat⟩
      format := .ofDatum (data.field 2) }
  fits properties :=
    ⟨word32_holds _, word32_holds _, properties.format.fits_toDatum, trivial⟩
  ofData_toData properties := by
    simp [Data.field, Datum.int, AudioFormat.ofDatum_toDatum]

instance : JsonForm DeviceAddress where
  shape := .record
    { name := "DeviceAddress"
      fields := [
        { name := "device", scalar := .integer .word32 }, { name := "address", scalar := .text }] }
  toData address := .record [.integer address.device.toNat, .text address.address]
  ofData data := { device := .ofNat (data.field 0).int.toNat, address := (data.field 1).string }
  fits _ := ⟨word32_holds _, trivial, trivial⟩
  ofData_toData address := by simp [Data.field, Datum.int, Datum.string]

instance : JsonForm CapturePosition where
  shape := .record
    { name := "CapturePosition"
      fields := [
        { name := "frames", scalar := .integer .word64 },
        { name := "time_ns", scalar := .integer .word64 }] }
  toData position := .record [.integer position.frames.toNat, .integer position.timeNs.toNat]
  ofData data :=
    { frames := .ofNat (data.field 0).int.toNat, timeNs := .ofNat (data.field 1).int.toNat }
  fits _ := ⟨word64_holds _, word64_holds _, trivial⟩
  ofData_toData position := by simp [Data.field, Datum.int]

instance : JsonForm ParameterValue where
  shape := .record
    { name := "ParameterValue"
      fields := [{ name := "key", scalar := .text }, { name := "value", scalar := .text }] }
  toData parameter := .record [.text parameter.key, .text parameter.value]
  ofData data := { key := (data.field 0).string, value := (data.field 1).string }
  fits _ := ⟨trivial, trivial, trivial⟩
  ofData_toData parameter := by simp [Data.field, Datum.string]

instance : JsonForm ReadOutcome where
  shape := .record
    { name := "ReadOutcome"
      fields := [
        { name := "result", scalar := ResultCode.form },
        { name := "transferred", scalar := .integer .word64 }] }
  toData outcome := .record
    [.variant outcome.result.name none, .integer outcome.transferred.toNat]
  ofData data :=
    { result := .ofDatum (data.field 0), transferred := .ofNat (data.field 1).int.toNat }
  fits outcome := ⟨outcome.result.form_fits, word64_holds _, trivial⟩
  ofData_toData outcome := by simp [Data.field, Datum.int, ResultCode.ofDatum_name]

/-- Every field of a configuration may be left out, and no other may be there. -/
def SessionConfig.record : Record :=
  let base : SessionConfig := {}
  { name := "SessionConfig"
    closed := true
    fields := [
      { name := "wait_timeout_ms", scalar := .integer .word64
        default? := some (.integer base.waitTimeoutMs.toNat) },
      { name := "join_retry_bound", scalar := .integer .word32
        default? := some (.integer base.joinRetryBound.toNat) },
      { name := "max_transport_bytes", scalar := .integer .size
        default? := some (.integer base.maxTransportBytes.toNat) },
      { name := "mmap_mode", scalar := .flag, default? := some (.flag base.mmapMode) }] }

instance : JsonForm SessionConfig where
  shape := .record SessionConfig.record
  toData config := .record
    [.integer config.waitTimeoutMs.toNat, .integer config.joinRetryBound.toNat,
      .integer config.maxTransportBytes.toNat, .flag config.mmapMode]
  ofData data :=
    { waitTimeoutMs := .ofNat (data.field 0).int.toNat
      joinRetryBound := .ofNat (data.field 1).int.toNat
      maxTransportBytes := .ofNat (data.field 2).int.toNat
      mmapMode := (data.field 3).bool }
  fits _ := ⟨word64_holds _, word32_holds _, size_holds _, trivial, trivial⟩
  ofData_toData config := by simp [Data.field, Datum.int, Datum.bool]

/-- The configuration that a JSON text holds, if it is acceptable. -/
def SessionConfig.ofJson (text : String) : Except Failure SessionConfig :=
  match JsonForm.parse SessionConfig text with
  | .error fault => .error (.invalidArguments ("bad session config: " ++ fault.message))
  | .ok config =>
      match config.fault? with
      | some fault => .error (.invalidArguments fault.message)
      | none => .ok config

end AudioCapture
