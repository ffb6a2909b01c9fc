import AudioCapture.Session.Run
import AudioCapture.Source.Logged

/-!
# Calls that are passed on

Most calls on a session are put together of calls on its device (`Relayed`), and all that is said
about them is said by induction on how they are put together: on a logged device they touch
nothing but the device and the log, and neither read from the device nor close it
(`Relayed.passed`); a session without its device refuses them (`Relayed.refused`).

* `relays_of_isRelayed` — which calls these are;
* `perform_passed`, `perform_of_gone` — the same of the calls by name.
-/

namespace AudioCapture

/-- Whether a call neither reads from the device nor closes it. -/
def DeviceCall.isOrdinary : DeviceCall → Bool
  | .read _ | .close => false
  | _ => true

namespace Session

variable {σ α β : Type} {inner : AudioSource σ} {s t u : Session (Logged σ)}
  {made more : List DeviceCall}

/-! ## The owner's side -/

/-- Two sessions with the same on the side of the thread that owns them. -/
structure SameSide (s t : Session σ) : Prop where
  config : t.config = s.config
  source : t.source = s.source
  state : t.state = s.state
  closed : t.closed = s.closed
  holdsSource : t.holdsSource = s.holdsSource
  holdsTransport : t.holdsTransport = s.holdsTransport
  lastDiagnostics : t.lastDiagnostics = s.lastDiagnostics

/-! ## What a call may leave behind -/

/-- The second session differs from the first in its device and its log at most; the device has got
some ordinary calls, and none at all if the session does not have it. -/
structure Passed (s t : Session (Logged σ)) (made : List DeviceCall) : Prop where
  same : t = { s with device := t.device, log := t.log }
  calls : t.device.calls = s.device.calls ++ made
  ordinary : ∀ call ∈ made, call.isOrdinary = true
  unmade : s.holdsSource = false → made = []

theorem Passed.refl (s : Session (Logged σ)) : s.Passed s [] :=
  ⟨rfl, (List.append_nil _).symm, nofun, fun _ => rfl⟩

theorem Passed.logged (s : Session (Logged σ)) (notices : List Notice) :
    s.Passed { s with log := s.log ++ notices } [] :=
  ⟨rfl, (List.append_nil _).symm, nofun, fun _ => rfl⟩

theorem Passed.sameSide (h : s.Passed t made) : s.SameSide t := by
  rw [h.same]
  exact ⟨rfl, rfl, rfl, rfl, rfl, rfl, rfl⟩

theorem Passed.trans (first : s.Passed t made) (second : t.Passed u more) :
    s.Passed u (made ++ more) where
  same := second.same.trans (by rw [first.same])
  calls := by rw [second.calls, first.calls, List.append_assoc]
  ordinary := by
    intro call member
    exact (List.mem_append.1 member).elim (first.ordinary call) (second.ordinary call)
  unmade := by
    intro gone
    rw [first.unmade gone, second.unmade (first.sameSide.holdsSource.trans gone)]
    rfl

theorem Passed.unclosed (h : s.Passed t made) : DeviceCall.close ∉ made :=
  fun closing => Bool.false_ne_true (h.ordinary _ closing)

theorem Passed.unread (h : s.Passed t made) (offered : Nat) : DeviceCall.read offered ∉ made :=
  fun reading => Bool.false_ne_true (h.ordinary _ reading)

/-! ## Calls that are put together of device calls -/

/-- How a call on a session is put together of ordinary calls on its device. A guarded one begins
with a look whether the session still has the device. -/
inductive Relayed (inner : AudioSource σ) :
    (guarded : Bool) → {α : Type} → Control (Logged σ) α → Prop
  | pure {α : Type} (value : α) : Relayed inner false (Pure.pure value : Control (Logged σ) α)
  | throw {α : Type} (failure : Failure) :
      Relayed inner false (throw failure : Control (Logged σ) α)
  | look : Relayed inner true requireSource
  | ask {α : Type} {question : AudioSource (Logged σ) → StateM (Logged σ) α} (call : DeviceCall)
      (answer : StateM σ α) : question (Logged.source inner) = Logged.pass call answer →
      call.isOrdinary = true → Relayed inner true (ask question)
  | attempt {α : Type} {request : AudioSource (Logged σ) → Attempt (Logged σ) α}
      (operation : String) (call : DeviceCall) (answer : Attempt σ α) :
      request (Logged.source inner) = Logged.passAttempt call answer → call.isOrdinary = true →
      Relayed inner true (attempt operation request)
  | bind {guarded after : Bool} {α β : Type} {first : Control (Logged σ) α}
      {next : α → Control (Logged σ) β} : Relayed inner guarded first →
      (∀ value, Relayed inner after (next value)) → Relayed inner guarded (first >>= next)
  | whenMapped {operation : String} {request : AudioSource (Logged σ) → Attempt (Logged σ) Unit} :
      Relayed inner true (Session.attempt operation request) →
      Relayed inner true (Session.whenMapped operation request)

theorem run_bind (call : Control σ α) (next : α → Control σ β) (s : Session σ) :
    (call >>= next).run.run s =
      match call.run.run s with
      | (.ok value, t) => (next value).run.run t
      | (.error failure, t) => (.error failure, t) := by
  rw [ExceptT.run_bind, StateT.run_bind]
  rcases call.run.run s with ⟨ending, t⟩
  cases ending <;> rfl

theorem run_whenMapped (operation : String) (request : AudioSource σ → Attempt σ Unit)
    (s : Session σ) : (whenMapped operation request).run.run s =
      if s.config.mmapMode then (attempt operation request).run.run s
      else requireSource.run.run s := rfl

theorem passed_requireSource (s : Session (Logged σ)) :
    s.Passed (requireSource.run.run s).2 [] := by
  show s.Passed (ask (fun _ => Pure.pure ()) s).2 []
  unfold ask
  split <;> exact .refl s

theorem Relayed.passed {guarded : Bool} {call : Control (Logged σ) α}
    (h : Relayed inner guarded call) (wired : s.source = Logged.source inner) :
    ∃ made, s.Passed (call.run.run s).2 made := by
  induction h generalizing s with
  | pure value => exact ⟨[], .refl s⟩
  | throw failure => exact ⟨[], .refl s⟩
  | look => exact ⟨[], passed_requireSource s⟩
  | @ask α question call answer passes ordinary =>
    show ∃ made, s.Passed (Session.ask question s).2 made
    have kept := Logged.calls_pass call answer s.device
    rw [← passes, ← wired] at kept
    unfold Session.ask
    split
    · rename_i held
      refine ⟨[call], rfl, kept, by simpa using ordinary, ?_⟩
      intro gone
      exact absurd (held.symm.trans gone) nofun
    · exact ⟨[], .refl s⟩
  | @attempt α request operation call answer passes ordinary =>
    show ∃ made, s.Passed (Session.attempt operation request s).2 made
    have kept := Logged.calls_passAttempt call answer s.device
    rw [← passes, ← wired] at kept
    unfold Session.attempt
    split
    · rename_i held
      have unmade : s.holdsSource = false → [call] = [] :=
        fun gone => absurd (held.symm.trans gone) nofun
      split <;> rename_i ended <;> rw [ended] at kept <;>
        exact ⟨[call], rfl, kept, by simpa using ordinary, unmade⟩
    · exact ⟨[], .refl s⟩
  | @bind guarded after α β first next _ _ ihFirst ihNext =>
    obtain ⟨made, passed⟩ := ihFirst wired
    rw [run_bind]
    -- a failure of the first call is the end of both
    rcases ended : first.run.run s with ⟨ending, t⟩
    rw [ended] at passed
    cases ending with
    | error failure => exact ⟨made, passed⟩
    | ok value =>
      obtain ⟨more, last⟩ := ihNext value (passed.sameSide.source.trans wired)
      exact ⟨made ++ more, passed.trans last⟩
  | whenMapped _ ih =>
    rw [run_whenMapped]
    split
    · exact ih wired
    · exact ⟨[], passed_requireSource s⟩

theorem refused_requireSource {s : Session σ} (gone : s.holdsSource = false) :
    requireSource.run.run s = (.error .closed, s) := by
  show ask (fun _ => Pure.pure ()) s = _
  simp [ask, gone]

theorem Relayed.refused {call : Control (Logged σ) α} (h : Relayed inner true call)
    (gone : s.holdsSource = false) : call.run.run s = (.error .closed, s) := by
  -- the induction is on calls of either kind, so that the one to refuse has to be told apart
  generalize guards : true = guarded at h
  induction h with
  | pure value => cases guards
  | throw failure => cases guards
  | look =>
    exact refused_requireSource gone
  | @ask α question call answer passes ordinary =>
    show Session.ask question s = _
    simp [Session.ask, gone]
  | @attempt α request operation call answer passes ordinary =>
    show Session.attempt operation request s = _
    simp [Session.attempt, gone]
  | bind _ _ ih _ => rw [run_bind, ih guards]
  | whenMapped _ ih =>
    rw [run_whenMapped, ih rfl]
    split
    · rfl
    · exact refused_requireSource gone

/-! ## Which calls they are -/

/-- Whether a call goes to the device: the others are answered by a look at the session, or make and
end what the session has. -/
def isRelayed : Call → Bool
  | .setup .. | .state | .isClosed | .config | .diagnostics | .close => false
  | _ => true

theorem relayed_parameter (key : String) : Relayed inner true (parameter key) :=
  .attempt _ (.parameter key) _ rfl rfl

theorem relayed_parametersOf (keys : List String) :
    ∃ guarded, Relayed inner guarded (parametersOf keys) := by
  induction keys with
  | nil => exact ⟨false, .pure []⟩
  | cons key keys ih =>
    obtain ⟨_, rest⟩ := ih
    exact ⟨true, (relayed_parameter key).bind fun _ => rest.bind fun _ => .pure _⟩

theorem relayed_setParametersOf (settings : List ParameterValue) :
    ∃ guarded, Relayed inner guarded (setParametersOf settings) := by
  induction settings with
  | nil => exact ⟨false, .pure ()⟩
  | cons setting settings ih =>
    obtain ⟨_, rest⟩ := ih
    have first : Relayed inner true (setParameter setting) :=
      .attempt _ (.setParameter setting.key setting.value) _ rfl rfl
    exact ⟨true, first.bind fun _ => rest⟩

/-- The call is one that is put together of device calls. -/
def Relays (inner : AudioSource σ) (call : Call) : Prop :=
  ∃ (α : Type) (action : Control (Logged σ) α) (form : α → Answer),
    Relayed inner true action ∧ ∀ s, perform s call = s.control action form

theorem relays_ask {question : AudioSource (Logged σ) → StateM (Logged σ) α} {call : Call}
    (asked : DeviceCall) (answer : StateM σ α) (form : α → Answer)
    (passes : question (Logged.source inner) = Logged.pass asked answer)
    (ordinary : asked.isOrdinary = true)
    (same : ∀ s, perform s call = s.control (ask question) form) : Relays inner call :=
  ⟨α, _, form, .ask asked answer passes ordinary, same⟩

theorem relays_attempt {request : AudioSource (Logged σ) → Attempt (Logged σ) α} {call : Call}
    (operation : String) (asked : DeviceCall) (answer : Attempt σ α) (form : α → Answer)
    (passes : request (Logged.source inner) = Logged.passAttempt asked answer)
    (ordinary : asked.isOrdinary = true)
    (same : ∀ s, perform s call = s.control (attempt operation request) form) :
    Relays inner call :=
  ⟨α, _, form, .attempt operation asked answer passes ordinary, same⟩

theorem relays_of_isRelayed {call : Call} (goes : isRelayed call = true) :
    Relays inner call := by
  cases call with
  | setup | state | isClosed | config | diagnostics | close => cases goes
  | start =>
    exact ⟨_, _, _, .whenMapped (.attempt _ .start inner.start rfl rfl), fun _ => rfl⟩
  | stop =>
    exact ⟨_, _, _, .whenMapped (.attempt _ .stop inner.stop rfl rfl), fun _ => rfl⟩
  | frameSize => exact relays_ask .frameSize _ _ rfl rfl fun _ => rfl
  | frameCount =>
    have bytes : Relayed inner true (ask AudioSource.bufferSize) :=
      .ask .bufferSize _ rfl rfl
    have frame : Relayed inner true (ask AudioSource.frameSize) :=
      .ask .frameSize _ rfl rfl
    exact ⟨_, frameCount, _, bytes.bind fun _ => frame.bind fun _ => .pure _, fun _ => rfl⟩
  | bufferSize => exact relays_ask .bufferSize _ _ rfl rfl fun _ => rfl
  | sampleRate => exact relays_ask .sampleRate _ _ rfl rfl fun _ => rfl
  | supportedSampleRates => exact relays_ask .supportedSampleRates _ _ rfl rfl fun _ => rfl
  | setSampleRate rate =>
    exact relays_attempt _ (.setSampleRate rate) _ _ rfl rfl fun _ => rfl
  | channelMask => exact relays_ask .channelMask _ _ rfl rfl fun _ => rfl
  | setChannelMask mask =>
    exact relays_attempt _ (.setChannelMask mask) _ _ rfl rfl fun _ => rfl
  | supportedChannelMasks =>
    exact relays_attempt _ .supportedChannelMasks _ _ rfl rfl fun _ => rfl
  | format => exact relays_ask .format _ _ rfl rfl fun _ => rfl
  | setFormat format => exact relays_attempt _ (.setFormat format) _ _ rfl rfl fun _ => rfl
  | supportedFormats => exact relays_attempt _ .supportedFormats _ _ rfl rfl fun _ => rfl
  | audioProperties => exact relays_attempt _ .audioProperties _ _ rfl rfl fun _ => rfl
  | device => exact relays_ask .device _ _ rfl rfl fun _ => rfl
  | setDevice address => exact relays_attempt _ (.setDevice address) _ _ rfl rfl fun _ => rfl
  | setConnectedState address connected =>
    exact relays_attempt _ (.setConnectedState address connected) _ _ rfl rfl fun _ => rfl
  | standby => exact relays_attempt _ .standby _ _ rfl rfl fun _ => rfl
  | setGain gain => exact relays_attempt _ (.setGain gain) _ _ rfl rfl fun _ => rfl
  | parameters keys =>
    obtain ⟨_, rest⟩ : ∃ guarded, Relayed inner guarded (parametersOf keys) :=
      relayed_parametersOf keys
    exact ⟨_, parameters keys, _, .bind .look fun _ => rest, fun _ => rfl⟩
  | setParameters settings =>
    obtain ⟨_, rest⟩ : ∃ guarded, Relayed inner guarded (setParametersOf settings) :=
      relayed_setParametersOf settings
    exact ⟨_, setParameters settings, _, .bind .look fun _ => rest, fun _ => rfl⟩
  | inputSource =>
    refine ⟨_, inputSource, _, ?_, fun _ => rfl⟩
    refine (relayed_parameter InputSource.parameterKey).bind fun raw =>
      (?_ : Relayed inner false _)
    cases InputSource.ofText raw with
    | ok source => exact .pure source
    | error failure => exact .throw failure
  | inputFramesLost => exact relays_ask .inputFramesLost _ _ rfl rfl fun _ => rfl
  | capturePosition => exact relays_attempt _ .capturePosition _ _ rfl rfl fun _ => rfl

/-! ## The calls by name -/

theorem control_snd (s : Session σ) (call : Control σ α) (form : α → Answer) :
    (s.control call form).2 = (call.run.run s).2 := by
  unfold control
  split <;> rename_i ended <;> rw [ended]

/-- Whether a call is passed on to the device or answered without it. -/
def isPassedOn : Call → Bool
  | .setup .. | .state | .close => false
  | _ => true

/-- Calls that are passed on change nothing but the device and the log. -/
theorem perform_passed (wired : s.source = Logged.source inner) {call : Call}
    (plain : isPassedOn call = true) : ∃ made, s.Passed (s.perform call).2 made := by
  by_cases goes : isRelayed call = true
  · obtain ⟨α, action, form, relayed, same⟩ : Relays inner call := relays_of_isRelayed goes
    rw [same s, control_snd]
    exact relayed.passed wired
  · cases call with
    | setup | state | close => cases plain
    | isClosed | config | diagnostics => exact ⟨[], .refl s⟩
    | _ => exact absurd rfl goes

/-- A session without its device refuses every call that goes there, and stays as it is. -/
theorem perform_of_gone (_ : s.source = Logged.source inner) {call : Call}
    (goes : isRelayed call = true) (gone : s.holdsSource = false) :
    s.perform call = (.failed .closed, s) := by
  obtain ⟨α, action, form, relayed, same⟩ : Relays inner call := relays_of_isRelayed goes
  rw [same s, control, relayed.refused gone]

end Session

end AudioCapture
