import AudioCapture.Proofs.Capture.Reads
import AudioCapture.Proofs.Session.Passing

/-!
# The state of a device, told from its calls

The calls that a logged device keeps tell the state that it is in: that of the device when the same
calls are made again from where it started (`Logged.Told`). They tell its reads too, with what it
made of each (`AudioSource.exchanges`). A session asks nothing of its device that is not kept.

* `perform_tells` — the calls of a session that go to its device.
-/

namespace AudioCapture

variable {σ α β : Type}

/-! ## Calls made again -/

namespace AudioSource

/-- What a call leaves of a device. -/
def after (source : AudioSource σ) (device : σ) : DeviceCall → σ
  | .read offered => ((source.read offered).run device).2
  | .inputFramesLost => (source.inputFramesLost.run device).2
  | .capturePosition => (source.capturePosition.run.run device).2
  | .setGain gain => ((source.setGain gain).run.run device).2
  | .parameter key => ((source.parameter key).run.run device).2
  | .setParameter key value => ((source.setParameter key value).run.run device).2
  | .sampleRate => (source.sampleRate.run device).2
  | .setSampleRate rate => ((source.setSampleRate rate).run.run device).2
  | .supportedSampleRates => (source.supportedSampleRates.run device).2
  | .channelMask => (source.channelMask.run device).2
  | .setChannelMask mask => ((source.setChannelMask mask).run.run device).2
  | .supportedChannelMasks => (source.supportedChannelMasks.run.run device).2
  | .format => (source.format.run device).2
  | .setFormat encoding => ((source.setFormat encoding).run.run device).2
  | .supportedFormats => (source.supportedFormats.run.run device).2
  | .audioProperties => (source.audioProperties.run.run device).2
  | .frameSize => (source.frameSize.run device).2
  | .bufferSize => (source.bufferSize.run device).2
  | .device => (source.device.run device).2
  | .setDevice address => ((source.setDevice address).run.run device).2
  | .setConnectedState address connected =>
      ((source.setConnectedState address connected).run.run device).2
  | .standby => (source.standby.run.run device).2
  | .start => (source.start.run.run device).2
  | .stop => (source.stop.run.run device).2
  | .close => (source.close.run device).2

/-- What several calls leave of it, made one after the other. -/
def afterAll (source : AudioSource σ) (device : σ) (calls : List DeviceCall) : σ :=
  calls.foldl source.after device

/-- What the device makes of a call, if that is a read. -/
def exchange? (source : AudioSource σ) (device : σ) : DeviceCall → Option Exchange
  | .read offered => some (((source.read offered).run device).1.offered offered)
  | _ => none

/-- What the device makes of the reads among several calls. -/
def exchanges (source : AudioSource σ) (device : σ) : List DeviceCall → List Exchange
  | [] => []
  | call :: calls =>
      (source.exchange? device call).toList ++ source.exchanges (source.after device call) calls

variable {source : AudioSource σ} {device : σ}

theorem afterAll_concat (calls : List DeviceCall) (call : DeviceCall) :
    source.afterAll device (calls ++ [call]) = source.after (source.afterAll device calls) call :=
  List.foldl_append

theorem exchanges_append (calls more : List DeviceCall) :
    source.exchanges device (calls ++ more) =
      source.exchanges device calls ++ source.exchanges (source.afterAll device calls) more := by
  induction calls generalizing device with
  | nil => rfl
  | cons call calls ih =>
    rw [List.cons_append, exchanges, exchanges, ih, List.append_assoc]
    rfl

/-- Other calls are no reads. -/
theorem exchanges_eq_nil {calls : List DeviceCall}
    (unread : ∀ offered, DeviceCall.read offered ∉ calls) : source.exchanges device calls = [] := by
  induction calls generalizing device with
  | nil => rfl
  | cons call calls ih =>
    have rest : source.exchanges (source.after device call) calls = [] :=
      ih fun offered member => unread offered (List.mem_cons_of_mem call member)
    cases call with
    | read offered => exact absurd List.mem_cons_self (unread offered)
    | _ => exact rest

end AudioSource

/-- The calls that were kept, made again, take the device from where it started to where it is. -/
def Logged.Told (inner : AudioSource σ) (start : σ) (l : Logged σ) : Prop :=
  l.device = inner.afterAll start l.calls

theorem Logged.Told.pass {inner : AudioSource σ} {start : σ} {l : Logged σ}
    (told : l.Told inner start) {call : DeviceCall} {answer : StateM σ α}
    (same : (answer.run l.device).2 = inner.after l.device call) :
    ((Logged.pass call answer).run l).2.Told inner start := by
  show (answer.run l.device).2 = inner.afterAll start (l.calls ++ [call])
  rw [AudioSource.afterAll_concat, ← told]
  exact same

/-! ## Calls of a session -/

namespace Session

variable {inner : AudioSource σ} {start : σ} {s : Session (Logged σ)}

/-- The device is one whose calls tell its state. -/
structure Tells (inner : AudioSource σ) (start : σ) (s : Session (Logged σ)) : Prop where
  wired : s.source = Logged.source inner
  told : s.device.Told inner start

/-- The call asks nothing of the device that is not kept. -/
def Keeps (inner : AudioSource σ) (start : σ) (action : Control (Logged σ) α) : Prop :=
  ∀ s : Session (Logged σ), s.Tells inner start → (action.run.run s).2.Tells inner start

theorem keeps_pure (value : α) : Keeps inner start (pure value : Control (Logged σ) α) :=
  fun _ tells => tells

theorem keeps_throw (failure : Failure) :
    Keeps inner start (throw failure : Control (Logged σ) α) :=
  fun _ tells => tells

theorem keeps_look : Keeps inner start requireSource := by
  intro s tells
  show (ask (fun _ => pure ()) s).2.Tells inner start
  unfold ask
  split <;> exact tells

theorem keeps_ask {question : AudioSource (Logged σ) → StateM (Logged σ) α} (call : DeviceCall)
    (answer : StateM σ α) (passes : question (Logged.source inner) = Logged.pass call answer)
    (same : ∀ device, (answer.run device).2 = inner.after device call) :
    Keeps inner start (ask question) := by
  intro s tells
  show (ask question s).2.Tells inner start
  unfold ask
  split
  · refine ⟨tells.wired, ?_⟩
    show ((question s.source).run s.device).2.Told inner start
    rw [tells.wired, passes]
    exact tells.told.pass (same s.device.device)
  · exact tells

theorem keeps_attempt {request : AudioSource (Logged σ) → Attempt (Logged σ) α}
    (operation : String) (call : DeviceCall) (answer : Attempt σ α)
    (passes : request (Logged.source inner) = Logged.passAttempt call answer)
    (same : ∀ device, (answer.run.run device).2 = inner.after device call) :
    Keeps inner start (attempt operation request) := by
  intro s tells
  have told : ((request s.source).run.run s.device).2.Told inner start := by
    rw [tells.wired, passes]
    exact tells.told.pass (same s.device.device)
  show (attempt operation request s).2.Tells inner start
  unfold attempt
  split
  · split <;> rename_i ended <;> rw [ended] at told <;> exact ⟨tells.wired, told⟩
  · exact tells

theorem Keeps.bind {first : Control (Logged σ) α} {next : α → Control (Logged σ) β}
    (begins : Keeps inner start first) (goesOn : ∀ value, Keeps inner start (next value)) :
    Keeps inner start (first >>= next) := by
  intro s tells
  have left := begins s tells
  rw [run_bind]
  generalize first.run.run s = done at left ⊢
  obtain ⟨ending, t⟩ := done
  cases ending with
  | ok value => exact goesOn value t left
  | error failure => exact left

theorem Keeps.whenMapped {operation : String}
    {request : AudioSource (Logged σ) → Attempt (Logged σ) Unit}
    (attempts : Keeps inner start (attempt operation request)) :
    Keeps inner start (whenMapped operation request) := by
  intro s tells
  rw [run_whenMapped]
  split
  · exact attempts s tells
  · exact keeps_look s tells

theorem keeps_parameter (key : String) : Keeps inner start (parameter key) :=
  keeps_attempt _ (.parameter key) _ rfl fun _ => rfl

theorem keeps_parametersOf (keys : List String) : Keeps inner start (parametersOf keys) := by
  induction keys with
  | nil => exact keeps_pure []
  | cons key keys ih => exact (keeps_parameter key).bind fun _ => ih.bind fun _ => keeps_pure _

theorem keeps_setParametersOf (settings : List ParameterValue) :
    Keeps inner start (setParametersOf settings) := by
  induction settings with
  | nil => exact keeps_pure ()
  | cons setting settings ih =>
    have first : Keeps inner start (setParameter setting) :=
      keeps_attempt _ (.setParameter setting.key setting.value) _ rfl fun _ => rfl
    exact first.bind fun _ => ih

theorem keeps_frameCount : Keeps inner start frameCount := by
  have bytes : Keeps inner start (ask AudioSource.bufferSize) :=
    keeps_ask .bufferSize _ rfl fun _ => rfl
  have frame : Keeps inner start (ask AudioSource.frameSize) :=
    keeps_ask .frameSize _ rfl fun _ => rfl
  exact bytes.bind fun _ => frame.bind fun _ => keeps_pure _

theorem keeps_inputSource : Keeps inner start inputSource := by
  refine (keeps_parameter InputSource.parameterKey).bind fun raw => ?_
  cases InputSource.ofText raw with
  | ok source => exact keeps_pure source
  | error failure => exact keeps_throw failure

/-- A call that is passed on asks nothing of the device that is not kept. -/
theorem perform_tells (tells : s.Tells inner start) {call : Call}
    (plain : isPassedOn call = true) : (s.perform call).2.Tells inner start := by
  have made : ∀ {α : Type} {action : Control (Logged σ) α} (form : α → Answer),
      Keeps inner start action → (s.control action form).2.Tells inner start := by
    intro α action form keeps
    rw [control_snd]
    exact keeps s tells
  cases call with
  | setup | state | close => cases plain
  | isClosed | config | diagnostics => exact tells
  | start => exact made _ (Keeps.whenMapped (keeps_attempt _ .start _ rfl fun _ => rfl))
  | stop => exact made _ (Keeps.whenMapped (keeps_attempt _ .stop _ rfl fun _ => rfl))
  | frameSize => exact made _ (keeps_ask .frameSize _ rfl fun _ => rfl)
  | frameCount => exact made _ keeps_frameCount
  | bufferSize => exact made _ (keeps_ask .bufferSize _ rfl fun _ => rfl)
  | sampleRate => exact made _ (keeps_ask .sampleRate _ rfl fun _ => rfl)
  | supportedSampleRates => exact made _ (keeps_ask .supportedSampleRates _ rfl fun _ => rfl)
  | setSampleRate rate => exact made _ (keeps_attempt _ (.setSampleRate rate) _ rfl fun _ => rfl)
  | channelMask => exact made _ (keeps_ask .channelMask _ rfl fun _ => rfl)
  | setChannelMask mask => exact made _ (keeps_attempt _ (.setChannelMask mask) _ rfl fun _ => rfl)
  | supportedChannelMasks =>
    exact made _ (keeps_attempt _ .supportedChannelMasks _ rfl fun _ => rfl)
  | format => exact made _ (keeps_ask .format _ rfl fun _ => rfl)
  | setFormat format => exact made _ (keeps_attempt _ (.setFormat format) _ rfl fun _ => rfl)
  | supportedFormats => exact made _ (keeps_attempt _ .supportedFormats _ rfl fun _ => rfl)
  | audioProperties => exact made _ (keeps_attempt _ .audioProperties _ rfl fun _ => rfl)
  | device => exact made _ (keeps_ask .device _ rfl fun _ => rfl)
  | setDevice address => exact made _ (keeps_attempt _ (.setDevice address) _ rfl fun _ => rfl)
  | setConnectedState address connected =>
    exact made _ (keeps_attempt _ (.setConnectedState address connected) _ rfl fun _ => rfl)
  | standby => exact made _ (keeps_attempt _ .standby _ rfl fun _ => rfl)
  | setGain gain => exact made _ (keeps_attempt _ (.setGain gain) _ rfl fun _ => rfl)
  | parameters keys => exact made _ (keeps_look.bind fun _ => keeps_parametersOf keys)
  | setParameters settings =>
    exact made _ (keeps_look.bind fun _ => keeps_setParametersOf settings)
  | inputSource => exact made _ keeps_inputSource
  | inputFramesLost => exact made _ (keeps_ask .inputFramesLost _ rfl fun _ => rfl)
  | capturePosition => exact made _ (keeps_attempt _ .capturePosition _ rfl fun _ => rfl)

end Session

end AudioCapture
