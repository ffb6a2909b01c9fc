import Mathlib.Data.List.Induction
import AudioCapture.Proofs.Session.Replay
import AudioCapture.Proofs.Text.Numeral
import AudioCapture.Source.Scripted
import AudioCapture.Source.Simulated

/-!
# Settings of a device

A session goes through a list of settings, or of keys to look up, in order and up to the first call
that its device turns down (`AudioSource.TurnsDownAt`); up to there every call is made, and none
behind it (`lists_in_order`). A simulated device gives for a key what it was set to last
(`Parameters.LastSet`). The input source is read from one such setting (`input_source_exact`).

* `run_setParametersOf`, `run_parametersOf` — the lists, by induction with the device's state;
* `Parameters.get?_ofList` — what is left of settings made one after the other.
-/

namespace AudioCapture

variable {σ α : Type}

/-! ## Calls that are turned down -/

namespace AudioSource

variable {source : AudioSource σ} {device : σ} {call : DeviceCall} {calls : List DeviceCall}
  {place : Nat} {status : DeviceStatus}

/-- What the device gives for a key, if it gives anything. -/
def lookup? (source : AudioSource σ) (device : σ) (key : String) : Option String :=
  ((source.parameter key).run.run device).1.toOption

/-- The status that a call ends with if it is turned down. -/
def statusOf? : Except DeviceStatus α → Option DeviceStatus
  | .ok _ => none
  | .error status => some status

theorem statusOf?_eq_none_iff {ending : Except DeviceStatus α} :
    statusOf? ending = none ↔ ∃ value, ending = .ok value := by
  cases ending <;> simp [statusOf?]

theorem statusOf?_eq_some_iff {ending : Except DeviceStatus α} :
    statusOf? ending = some status ↔ ending = .error status := by
  cases ending <;> simp [statusOf?]

/-- The status with which a device turns down a call for one of its settings. -/
def refusal? (source : AudioSource σ) (device : σ) : DeviceCall → Option DeviceStatus
  | .parameter key => statusOf? ((source.parameter key).run.run device).1
  | .setParameter key value => statusOf? ((source.setParameter key value).run.run device).1
  | _ => none

/-- The device turns none of the calls down, each as those before it have left the device. -/
def Accepts (source : AudioSource σ) (device : σ) (calls : List DeviceCall) : Prop :=
  ∀ place call, calls[place]? = some call →
    source.refusal? (source.afterAll device (calls.take place)) call = none

/-- The call in a place is the first that the device turns down. -/
structure TurnsDownAt (source : AudioSource σ) (device : σ) (calls : List DeviceCall) (place : Nat)
    (status : DeviceStatus) : Prop where
  before : source.Accepts device (calls.take place)
  here : ∃ call, calls[place]? = some call ∧
    source.refusal? (source.afterAll device (calls.take place)) call = some status

theorem accepts_nil (source : AudioSource σ) (device : σ) : source.Accepts device [] := by
  intro place call there
  cases there

theorem accepts_cons : source.Accepts device (call :: calls) ↔
    source.refusal? device call = none ∧ source.Accepts (source.after device call) calls := by
  constructor
  · intro all
    exact ⟨all 0 call rfl, fun place next there => all (place + 1) next there⟩
  · rintro ⟨first, rest⟩ place next there
    cases place with
    | zero =>
        cases there
        exact first
    | succ place => exact rest place next there

theorem turnsDownAt_zero : source.TurnsDownAt device (call :: calls) 0 status ↔
    source.refusal? device call = some status := by
  constructor
  · rintro ⟨-, next, there, refused⟩
    cases there
    exact refused
  · intro refused
    exact ⟨accepts_nil source device, call, rfl, refused⟩

theorem turnsDownAt_succ : source.TurnsDownAt device (call :: calls) (place + 1) status ↔
    source.refusal? device call = none ∧
      source.TurnsDownAt (source.after device call) calls place status := by
  constructor
  · rintro ⟨before, here⟩
    obtain ⟨first, rest⟩ := accepts_cons.1 before
    exact ⟨first, rest, here⟩
  · rintro ⟨first, before, here⟩
    exact ⟨accepts_cons.2 ⟨first, before⟩, here⟩

theorem TurnsDownAt.not_accepts (turnsDown : source.TurnsDownAt device calls place status) :
    ¬ source.Accepts device calls := by
  intro accepts
  obtain ⟨-, call, there, refused⟩ := turnsDown
  simp [accepts place call there] at refused

theorem accepts_or_turnsDownAt (source : AudioSource σ) (device : σ) (calls : List DeviceCall) :
    source.Accepts device calls ∨
      ∃ place status, source.TurnsDownAt device calls place status := by
  induction calls generalizing device with
  | nil => exact .inl (accepts_nil source device)
  | cons call calls ih =>
      cases first : source.refusal? device call with
      | some status => exact .inr ⟨0, status, turnsDownAt_zero.2 first⟩
      | none =>
          obtain accepts | ⟨place, status, turnsDown⟩ := ih (source.after device call)
          · exact .inl (accepts_cons.2 ⟨first, accepts⟩)
          · exact .inr ⟨place + 1, status, turnsDownAt_succ.2 ⟨first, turnsDown⟩⟩

end AudioSource

/-! ## Logged devices -/

namespace Logged

variable {inner : AudioSource σ} {l : Logged σ} {calls : List DeviceCall} {place : Nat}
  {status : DeviceStatus}

theorem after_source (inner : AudioSource σ) (l : Logged σ) (call : DeviceCall) :
    (source inner).after l call = ⟨inner.after l.device call, l.calls ++ [call]⟩ := by
  cases call <;> rfl

theorem afterAll_source (inner : AudioSource σ) (l : Logged σ) (calls : List DeviceCall) :
    (source inner).afterAll l calls = ⟨inner.afterAll l.device calls, l.calls ++ calls⟩ := by
  induction calls generalizing l with
  | nil => simp [AudioSource.afterAll]
  | cons call calls ih =>
      show (source inner).afterAll ((source inner).after l call) calls = _
      rw [after_source, ih]
      simp [AudioSource.afterAll]

theorem refusal?_source (inner : AudioSource σ) (l : Logged σ) (call : DeviceCall) :
    (source inner).refusal? l call = inner.refusal? l.device call := by
  cases call <;> rfl

theorem lookup?_source (inner : AudioSource σ) (l : Logged σ) (key : String) :
    (source inner).lookup? l key = inner.lookup? l.device key :=
  rfl

theorem accepts_source : (source inner).Accepts l calls ↔ inner.Accepts l.device calls := by
  simp only [AudioSource.Accepts, afterAll_source, refusal?_source]

theorem turnsDownAt_source (turnsDown : inner.TurnsDownAt l.device calls place status) :
    (Logged.source inner).TurnsDownAt l calls place status := by
  obtain ⟨before, call, there, refused⟩ := turnsDown
  refine ⟨accepts_source.2 before, call, there, ?_⟩
  rwa [afterAll_source, refusal?_source]

end Logged

/-! ## Lists of settings and of keys -/

/-- The device call that makes a setting. -/
def ParameterValue.call (setting : ParameterValue) : DeviceCall :=
  .setParameter setting.key setting.value

namespace Session

variable {s : Session σ} {status : DeviceStatus}

/-- The session when some calls have been made to its device and some lines logged. -/
def calling (s : Session σ) (calls : List DeviceCall) (notices : List Notice) : Session σ :=
  { s with device := s.source.afterAll s.device calls, log := s.log ++ notices }

theorem calling_calling (s : Session σ) (first second : List DeviceCall)
    (notices : List Notice) :
    (s.calling first []).calling second notices = s.calling (first ++ second) notices := by
  simp [calling, AudioSource.afterAll]

section Attempts

variable {operation : String} {request : AudioSource σ → Attempt σ α}

theorem run_attempt_ok (held : s.holdsSource = true) (call : DeviceCall) {value : α}
    (got : (request s.source).run.run s.device = (.ok value, s.source.after s.device call)) :
    (attempt operation request).run.run s = (.ok value, s.calling [call] []) := by
  show attempt operation request s = _
  unfold attempt
  rw [if_pos held, got]
  simp [calling, AudioSource.afterAll]

/-- A device call that is turned down is logged. -/
theorem run_attempt_error (held : s.holdsSource = true) (call : DeviceCall)
    (refused : (request s.source).run.run s.device =
      (.error status, s.source.after s.device call)) :
    (attempt operation request).run.run s = (.error (status.toFailure operation),
      s.calling [call] [.deviceCallFailed operation status]) := by
  show attempt operation request s = _
  unfold attempt
  rw [if_pos held, refused]
  simp [calling, AudioSource.afterAll, note]

end Attempts

theorem calling_nil (s : Session σ) : s.calling [] [] = s := by
  simp [calling, AudioSource.afterAll]

/-- A list of settings is gone through up to the first that is turned down. -/
theorem run_setParametersOf (held : s.holdsSource = true) (settings : List ParameterValue) :
    (s.source.Accepts s.device (settings.map (·.call)) →
      (setParametersOf settings).run.run s = (.ok (), s.calling (settings.map (·.call)) [])) ∧
    ∀ place status, s.source.TurnsDownAt s.device (settings.map (·.call)) place status →
      (setParametersOf settings).run.run s = (.error (status.toFailure "set_parameters"),
        s.calling ((settings.map (·.call)).take (place + 1))
          [.deviceCallFailed "set_parameters" status]) := by
  induction settings generalizing s with
  | nil =>
      constructor
      · intro _
        rw [List.map_nil, calling_nil]
        rfl
      · rintro place status ⟨-, call, there, -⟩
        cases there
  | cons setting settings ih =>
      obtain ⟨done, stopped⟩ := ih (s := s.calling [setting.call] []) held
      -- what is left behind the first setting when the device makes it
      have goesOn : s.source.refusal? s.device setting.call = none →
          (setParametersOf (setting :: settings)).run.run s =
            (setParametersOf settings).run.run (s.calling [setting.call] []) := by
        intro accepted
        obtain ⟨value, got⟩ := AudioSource.statusOf?_eq_none_iff.1 accepted
        rw [setParametersOf, run_bind, setParameter,
          run_attempt_ok held setting.call (Prod.ext got rfl)]
      constructor
      · intro accepts
        obtain ⟨accepted, rest⟩ := AudioSource.accepts_cons.1 accepts
        rw [goesOn accepted, done rest, calling_calling]
        rfl
      · intro place status turnsDown
        cases place with
        | zero =>
            have refused := AudioSource.statusOf?_eq_some_iff.1
              (AudioSource.turnsDownAt_zero.1 turnsDown)
            rw [setParametersOf, run_bind, setParameter,
              run_attempt_error held setting.call (Prod.ext refused rfl)]
            rfl
        | succ place =>
            obtain ⟨accepted, rest⟩ := AudioSource.turnsDownAt_succ.1 turnsDown
            rw [goesOn accepted, stopped place status rest, calling_calling]
            rfl

/-- What the device gives for keys one after the other. -/
def Gives (source : AudioSource σ) (device : σ) (keys : List String)
    (found : List ParameterValue) : Prop :=
  found.map (·.key) = keys ∧ ∀ place setting, found[place]? = some setting →
    source.lookup? (source.afterAll device ((keys.map .parameter).take place)) setting.key =
      some setting.value

/-- A list of keys is looked up as far as the first that the device does not give. -/
theorem run_parametersOf (held : s.holdsSource = true) (keys : List String) :
    (s.source.Accepts s.device (keys.map .parameter) →
      ∃ found, (parametersOf keys).run.run s = (.ok found, s.calling (keys.map .parameter) []) ∧
        Gives s.source s.device keys found) ∧
    ∀ place status, s.source.TurnsDownAt s.device (keys.map .parameter) place status →
      (parametersOf keys).run.run s = (.error (status.toFailure "get_parameters"),
        s.calling ((keys.map .parameter).take (place + 1))
          [.deviceCallFailed "get_parameters" status]) := by
  induction keys generalizing s with
  | nil =>
      constructor
      · intro _
        refine ⟨[], ?_, rfl, nofun⟩
        rw [List.map_nil, calling_nil]
        rfl
      · rintro place status ⟨-, call, there, -⟩
        cases there
  | cons key keys ih =>
      obtain ⟨done, stopped⟩ := ih (s := s.calling [.parameter key] []) held
      have first : ∀ {value}, ((s.source.parameter key).run.run s.device).1 = .ok value →
          (parameter key).run.run s = (.ok value, s.calling [.parameter key] []) :=
        fun got => run_attempt_ok held (.parameter key) (Prod.ext got rfl)
      constructor
      · intro accepts
        obtain ⟨accepted, rest⟩ := AudioSource.accepts_cons.1 accepts
        obtain ⟨value, got⟩ := AudioSource.statusOf?_eq_none_iff.1 accepted
        obtain ⟨found, run, same, gives⟩ := done rest
        refine ⟨⟨key, value⟩ :: found, ?_, by rw [List.map_cons, same], ?_⟩
        · rw [parametersOf, run_bind, first got]
          show (parametersOf keys >>= _).run.run (s.calling [.parameter key] []) = _
          rw [run_bind, run, calling_calling]
          rfl
        · intro place setting there
          cases place with
          | zero =>
              cases there
              simp [AudioSource.lookup?, AudioSource.afterAll, got, Except.toOption]
          | succ place => exact gives place setting there
      · intro place status turnsDown
        cases place with
        | zero =>
            have refused := AudioSource.statusOf?_eq_some_iff.1
              (AudioSource.turnsDownAt_zero.1 turnsDown)
            rw [parametersOf, run_bind, parameter,
              run_attempt_error held (.parameter key) (Prod.ext refused rfl)]
            rfl
        | succ place =>
            obtain ⟨accepted, rest⟩ := AudioSource.turnsDownAt_succ.1 turnsDown
            obtain ⟨value, got⟩ := AudioSource.statusOf?_eq_none_iff.1 accepted
            rw [parametersOf, run_bind, first got]
            show (parametersOf keys >>= _).run.run (s.calling [.parameter key] []) = _
            rw [run_bind, stopped place status rest, calling_calling]
            rfl

theorem run_requireSource (held : s.holdsSource = true) :
    requireSource.run.run s = (.ok (), s) := by
  show ask (fun _ => pure ()) s = _
  unfold ask
  rw [if_pos held]
  rfl

theorem run_requireSource_of_gone (gone : s.holdsSource = false) :
    requireSource.run.run s = (.error .closed, s) := by
  show ask (fun _ => pure ()) s = _
  unfold ask
  rw [if_neg (by simp [gone])]

theorem perform_setParameters (held : s.holdsSource = true) (settings : List ParameterValue) :
    (s.source.Accepts s.device (settings.map (·.call)) →
      s.perform (.setParameters settings) =
        (.answered .done, s.calling (settings.map (·.call)) [])) ∧
    ∀ place status, s.source.TurnsDownAt s.device (settings.map (·.call)) place status →
      s.perform (.setParameters settings) = (.failed (status.toFailure "set_parameters"),
        s.calling ((settings.map (·.call)).take (place + 1))
          [.deviceCallFailed "set_parameters" status]) := by
  obtain ⟨done, stopped⟩ := run_setParametersOf held settings
  simp only [perform, control, setParameters, run_bind, run_requireSource held]
  constructor
  · intro accepts
    simp only [done accepts]
  · intro place status turnsDown
    simp only [stopped place status turnsDown]

theorem perform_parameters (held : s.holdsSource = true) (keys : List String) :
    (s.source.Accepts s.device (keys.map .parameter) →
      ∃ found, s.perform (.parameters keys) =
          (.answered (.settings found), s.calling (keys.map .parameter) []) ∧
        Gives s.source s.device keys found) ∧
    ∀ place status, s.source.TurnsDownAt s.device (keys.map .parameter) place status →
      s.perform (.parameters keys) = (.failed (status.toFailure "get_parameters"),
        s.calling ((keys.map .parameter).take (place + 1))
          [.deviceCallFailed "get_parameters" status]) := by
  obtain ⟨done, stopped⟩ := run_parametersOf held keys
  simp only [perform, control, parameters, run_bind, run_requireSource held]
  constructor
  · intro accepts
    obtain ⟨found, run, gives⟩ := done accepts
    exact ⟨found, by simp only [run], gives⟩
  · intro place status turnsDown
    simp only [stopped place status turnsDown]

end Session

/-! ## Settings that a device keeps -/

namespace Parameters

variable {history : List ParameterValue} {key value : String}

/-- The key was set to the value, and not set any more since. -/
def LastSet (history : List ParameterValue) (key value : String) : Prop :=
  ∃ before after, history = before ++ ⟨key, value⟩ :: after ∧ ∀ later ∈ after, later.key ≠ key

theorem lastSet_concat {last : ParameterValue} : LastSet (history ++ [last]) key value ↔
    if last.key = key then last.value = value else LastSet history key value := by
  constructor
  · rintro ⟨before, after, all, since⟩
    rcases List.eq_nil_or_concat after with rfl | ⟨after, other, rfl⟩
    · obtain ⟨-, same⟩ := List.append_inj' all rfl
      cases same
      simp
    · simp only [List.concat_eq_append] at all since
      rw [← List.cons_append, ← List.append_assoc] at all
      obtain ⟨earlier, same⟩ := List.append_inj' all rfl
      cases same
      rw [if_neg (since last (by simp))]
      exact ⟨before, after, earlier, fun later member => since later (by simp [member])⟩
  · split
    · rename_i same
      rintro rfl
      exact ⟨history, [], by rw [← same], nofun⟩
    · rename_i other
      rintro ⟨before, after, rfl, since⟩
      refine ⟨before, after ++ [last], by simp, ?_⟩
      intro later member
      rcases List.mem_append.1 member with member | member
      · exact since later member
      · rwa [List.mem_singleton.1 member]

/-- A key has the value that it was set to last. -/
theorem get?_ofList : (ofList history).get? key = some value ↔ LastSet history key value := by
  induction history using List.reverseRecOn with
  | nil =>
      constructor
      · nofun
      · rintro ⟨before, after, all, -⟩
        exact absurd all.symm (by simp)
  | append_singleton history last ih =>
      rw [lastSet_concat, ← ih]
      simp only [ofList, List.foldl_append, List.foldl_cons, List.foldl_nil, get?_set]
      split <;> simp

theorem get?_ofList_eq_none_iff :
    (ofList history).get? key = none ↔ ∀ setting ∈ history, setting.key ≠ key := by
  induction history using List.reverseRecOn with
  | nil => exact ⟨nofun, fun _ => rfl⟩
  | append_singleton history last ih =>
      simp only [ofList, List.foldl_append, List.foldl_cons, List.foldl_nil, get?_set] at ih ⊢
      split
      · rename_i same
        simp [same]
      · rename_i other
        simp [ih, or_imp, forall_and, other]

end Parameters

namespace Simulated

variable {s : Simulated} {keys : List String}

theorem accepts_settings (s : Simulated) (settings : List ParameterValue) :
    source.Accepts s (settings.map (·.call)) := by
  induction settings generalizing s with
  | nil => exact AudioSource.accepts_nil source s
  | cons setting settings ih => exact AudioSource.accepts_cons.2 ⟨rfl, ih _⟩

theorem afterAll_settings (s : Simulated) (settings : List ParameterValue) :
    source.afterAll s (settings.map (·.call)) =
      { s with parameters := settings.foldl (fun parameters setting =>
          parameters.set setting.key setting.value) s.parameters } := by
  induction settings generalizing s with
  | nil => rfl
  | cons setting settings ih => exact ih _

/-- A device gives what a key was set to, and turns other keys down. -/
theorem run_parameter (s : Simulated) (key : String) :
    (source.parameter key).run.run s =
      ((s.parameters.get? key).elim (.error .invalidArgument) .ok, s) := by
  have looked : (ExceptT.run (get : Attempt Simulated Simulated)).run s = pure (.ok s, s) := rfl
  simp only [source, ExceptT.run_bind, StateT.run_bind, looked, pure_bind]
  cases s.parameters.get? key <;> rfl

theorem lookup?_eq (s : Simulated) (key : String) :
    source.lookup? s key = s.parameters.get? key := by
  rw [AudioSource.lookup?, run_parameter]
  cases s.parameters.get? key <;> rfl

theorem refusal?_parameter (s : Simulated) (key : String) :
    source.refusal? s (.parameter key) = none ↔ s.parameters.get? key ≠ none := by
  rw [AudioSource.refusal?, run_parameter]
  cases s.parameters.get? key <;> simp [AudioSource.statusOf?]

theorem afterAll_lookups (s : Simulated) (keys : List String) :
    source.afterAll s (keys.map .parameter) = s := by
  induction keys with
  | nil => rfl
  | cons key keys ih =>
      have same : source.after s (.parameter key) = s := by
        rw [AudioSource.after, run_parameter]
      rw [List.map_cons, AudioSource.afterAll, List.foldl_cons, same]
      exact ih

theorem accepts_lookups : source.Accepts s (keys.map .parameter) ↔
    ∀ key ∈ keys, s.parameters.get? key ≠ none := by
  simp only [AudioSource.Accepts, ← List.map_take, afterAll_lookups, List.getElem?_map,
    Option.map_eq_some_iff]
  constructor
  · intro all key member
    obtain ⟨place, there⟩ := List.mem_iff_getElem?.1 member
    exact (refusal?_parameter s key).1 (all place _ ⟨key, there, rfl⟩)
  · rintro all place call ⟨key, there, rfl⟩
    exact (refusal?_parameter s key).2 (all key (List.mem_of_getElem? there))

/-- What is found are the settings that the device has. -/
theorem gives_iff {found : List ParameterValue} : Session.Gives source s keys found ↔
    found.map (·.key) = keys ∧
      ∀ setting ∈ found, s.parameters.get? setting.key = some setting.value := by
  simp only [Session.Gives, ← List.map_take, afterAll_lookups, lookup?_eq]
  refine and_congr_right fun _ => ⟨fun all setting member => ?_, fun all place setting there => ?_⟩
  · obtain ⟨place, there⟩ := List.mem_iff_getElem?.1 member
    exact all place setting there
  · exact all setting (List.mem_of_getElem? there)

end Simulated

namespace Session

/-! ### A session with a simulated device -/

section Mock

variable {mock : Session Simulated} {history : List ParameterValue}

/-- The session has a simulated device, and these settings were made on it. -/
structure Remembers (mock : Session Simulated) (history : List ParameterValue) : Prop where
  wired : mock.source = Simulated.source
  held : mock.holdsSource = true
  settings : mock.device.parameters = .ofList history

theorem Remembers.perform_setParameters (remembers : mock.Remembers history)
    (settings : List ParameterValue) :
    (mock.perform (.setParameters settings)).1 = .answered .done ∧
      (mock.perform (.setParameters settings)).2.Remembers (history ++ settings) := by
  have accepts : mock.source.Accepts mock.device (settings.map (·.call)) := by
    rw [remembers.wired]
    exact Simulated.accepts_settings mock.device settings
  rw [(Session.perform_setParameters remembers.held settings).1 accepts]
  refine ⟨rfl, remembers.wired, remembers.held, ?_⟩
  simp only [calling, remembers.wired, Simulated.afterAll_settings, remembers.settings,
    Parameters.ofList, List.foldl_append]

/-- The session behind several calls that make settings. -/
def afterSettings (mock : Session Simulated) (changes : List (List ParameterValue)) :
    Session Simulated :=
  changes.foldl (fun s settings => (s.perform (.setParameters settings)).2) mock

theorem Remembers.afterSettings (remembers : mock.Remembers history)
    (changes : List (List ParameterValue)) :
    (mock.afterSettings changes).Remembers (history ++ changes.flatten) := by
  induction changes generalizing mock history with
  | nil => simpa [Session.afterSettings] using remembers
  | cons settings changes ih =>
      rw [List.flatten_cons, ← List.append_assoc]
      exact ih (remembers.perform_setParameters settings).2

/-- A list of keys is found when each of them was set; it gives what they were set to last. -/
theorem Remembers.perform_parameters (remembers : mock.Remembers history) (keys : List String) :
    ((∃ found, (mock.perform (.parameters keys)).1 = .answered (.settings found)) ↔
      ∀ key ∈ keys, ∃ setting ∈ history, setting.key = key) ∧
    ∀ found, (mock.perform (.parameters keys)).1 = .answered (.settings found) →
      found.map (·.key) = keys ∧
        ∀ setting ∈ found, Parameters.LastSet history setting.key setting.value := by
  obtain ⟨completes, stops⟩ := Session.perform_parameters remembers.held keys
  have set_iff : mock.source.Accepts mock.device (keys.map .parameter) ↔
      ∀ key ∈ keys, ∃ setting ∈ history, setting.key = key := by
    rw [remembers.wired, Simulated.accepts_lookups, remembers.settings]
    simp [Parameters.get?_ofList_eq_none_iff]
  rcases mock.source.accepts_or_turnsDownAt mock.device (keys.map .parameter) with
    accepts | ⟨place, status, turnsDown⟩
  · obtain ⟨found, answer, gives⟩ := completes accepts
    rw [remembers.wired, Simulated.gives_iff, remembers.settings] at gives
    rw [answer]
    refine ⟨iff_of_true ⟨found, rfl⟩ (set_iff.1 accepts), ?_⟩
    rintro other same
    cases same
    exact ⟨gives.1, fun setting member => Parameters.get?_ofList.1 (gives.2 setting member)⟩
  · have unset : ¬ mock.source.Accepts mock.device (keys.map .parameter) := turnsDown.not_accepts
    rw [stops place status turnsDown]
    exact ⟨iff_of_false (by simp) (mt set_iff.2 unset), fun found answered => by cases answered⟩

end Mock

/-! ### Any device -/

/-- What comes of a call that makes calls of the device in order: all of them and an answer, or
those up to the first that is turned down, its failure, and a line in the log. -/
structure GoesThrough (inner : AudioSource σ) (s : Session (Logged σ)) (operation : String)
    (calls : List DeviceCall) (Answers : Answer → Prop)
    (outcome : CallEnd × Session (Logged σ)) : Prop where
  ends : inner.Accepts s.device.device calls ∨
    ∃ place status, inner.TurnsDownAt s.device.device calls place status
  completes : inner.Accepts s.device.device calls → ∃ answer, Answers answer ∧
    outcome = (.answered answer,
      { s with device := ⟨inner.afterAll s.device.device calls, s.device.calls ++ calls⟩ })
  stops : ∀ place status, inner.TurnsDownAt s.device.device calls place status →
    outcome = (.failed (status.toFailure operation),
      { s with
        device := ⟨inner.afterAll s.device.device (calls.take (place + 1)),
          s.device.calls ++ calls.take (place + 1)⟩
        log := s.log ++ [.deviceCallFailed operation status] })

section Wired

variable {inner : AudioSource σ} {s : Session (Logged σ)}

theorem calling_logged (wired : s.source = Logged.source inner) (calls : List DeviceCall)
    (notices : List Notice) : s.calling calls notices =
      { s with
        device := ⟨inner.afterAll s.device.device calls, s.device.calls ++ calls⟩
        log := s.log ++ notices } := by
  rw [calling, wired, Logged.afterAll_source]

theorem goesThrough_setParameters (wired : s.source = Logged.source inner)
    (held : s.holdsSource = true) (settings : List ParameterValue) :
    GoesThrough inner s "set_parameters" (settings.map (·.call)) (· = .done)
      (s.perform (.setParameters settings)) := by
  obtain ⟨completes, stops⟩ := perform_setParameters held settings
  rw [wired] at completes stops
  refine ⟨inner.accepts_or_turnsDownAt _ _, fun accepts => ⟨.done, rfl, ?_⟩, ?_⟩
  · rw [completes (Logged.accepts_source.2 accepts), calling_logged wired, List.append_nil]
  · intro place status turnsDown
    rw [stops place status (Logged.turnsDownAt_source turnsDown), calling_logged wired]

theorem gives_logged {keys : List String} {found : List ParameterValue} {l : Logged σ} :
    Gives (Logged.source inner) l keys found ↔ Gives inner l.device keys found := by
  simp only [Gives, Logged.afterAll_source, Logged.lookup?_source]

theorem goesThrough_parameters (wired : s.source = Logged.source inner)
    (held : s.holdsSource = true) (keys : List String) :
    GoesThrough inner s "get_parameters" (keys.map .parameter)
      (fun answer => ∃ found, answer = .settings found ∧ Gives inner s.device.device keys found)
      (s.perform (.parameters keys)) := by
  obtain ⟨completes, stops⟩ := perform_parameters held keys
  rw [wired] at completes stops
  refine ⟨inner.accepts_or_turnsDownAt _ _, fun accepts => ?_, ?_⟩
  · obtain ⟨found, answer, gives⟩ := completes (Logged.accepts_source.2 accepts)
    rw [calling_logged wired, List.append_nil] at answer
    exact ⟨.settings found, ⟨found, rfl, gives_logged.1 gives⟩, answer⟩
  · intro place status turnsDown
    rw [stops place status (Logged.turnsDownAt_source turnsDown), calling_logged wired]

end Wired

/-- A list of settings, or of keys, is gone through in order and up to the first call that the
device turns down; without the device no call is made. On a simulated device the keys that were set
are found, with the values that they were set to last. -/
theorem lists_in_order (inner : AudioSource σ) (s : Session (Logged σ))
    (wired : s.source = Logged.source inner) :
    (s.holdsSource = true →
      (∀ settings, GoesThrough inner s "set_parameters" (settings.map (·.call)) (· = .done)
        (s.perform (.setParameters settings))) ∧
      ∀ keys, GoesThrough inner s "get_parameters" (keys.map .parameter)
        (fun answer => ∃ found, answer = .settings found ∧ Gives inner s.device.device keys found)
        (s.perform (.parameters keys))) ∧
    (s.holdsSource = false →
      (∀ settings, s.perform (.setParameters settings) = (.failed .closed, s)) ∧
      ∀ keys, s.perform (.parameters keys) = (.failed .closed, s)) ∧
    ∀ (mock : Session Simulated) (history : List ParameterValue), mock.Remembers history →
      ∀ (changes : List (List ParameterValue)) (keys : List String),
        let all := history ++ changes.flatten
        let ending := ((mock.afterSettings changes).perform (.parameters keys)).1
        ((∃ found, ending = .answered (.settings found)) ↔
          ∀ key ∈ keys, ∃ setting ∈ all, setting.key = key) ∧
        ∀ found, ending = .answered (.settings found) → found.map (·.key) = keys ∧
          ∀ setting ∈ found, Parameters.LastSet all setting.key setting.value := by
  refine ⟨fun held => ⟨goesThrough_setParameters wired held, goesThrough_parameters wired held⟩,
    fun gone => ⟨fun settings => ?_, fun keys => ?_⟩, ?_⟩
  · simp only [perform, control, setParameters, run_bind, run_requireSource_of_gone gone]
  · simp only [perform, control, parameters, run_bind, run_requireSource_of_gone gone]
  · intro mock history remembers changes keys
    exact (remembers.afterSettings changes).perform_parameters keys

/-- A scripted device that turns one setting down. -/
def withoutRate : Session (Logged Scripted) where
  config := {}
  source := Logged.source Scripted.plain
  device := ⟨{ failures := [("set_parameter:rate", .noData)] }, []⟩

/-- A simulated device that was not set up in any way. -/
def unset : Session Simulated where
  config := {}
  source := Simulated.source
  device := { pattern := .silent }

/-- A setting in the middle is turned down; a key that is set twice is found twice with its second
value. -/
theorem lists_in_order_rate_turned_down :
    withoutRate.source = Logged.source Scripted.plain ∧ withoutRate.holdsSource = true ∧
    Scripted.plain.TurnsDownAt withoutRate.device.device
      [.setParameter "gain" "1", .setParameter "rate" "2", .setParameter "tone" "3"] 1 .noData ∧
    (withoutRate.perform (.setParameters [⟨"gain", "1"⟩, ⟨"rate", "2"⟩, ⟨"tone", "3"⟩])).1 =
      .failed (.invalidState "set_parameters has no data in current state") ∧
    (withoutRate.perform
      (.setParameters [⟨"gain", "1"⟩, ⟨"rate", "2"⟩, ⟨"tone", "3"⟩])).2.device.calls =
        [.setParameter "gain" "1", .setParameter "rate" "2"] ∧
    unset.Remembers [] ∧
    ∃ found, ((unset.afterSettings [[⟨"gain", "1"⟩, ⟨"tone", "2"⟩], [⟨"gain", "3"⟩]]).perform
      (.parameters ["gain", "gain"])).1 = .answered (.settings found) ∧
      found.map (·.key) = ["gain", "gain"] := by
  obtain ⟨present, -, mock⟩ := lists_in_order Scripted.plain withoutRate rfl
  have turnsDown : Scripted.plain.TurnsDownAt withoutRate.device.device
      [.setParameter "gain" "1", .setParameter "rate" "2", .setParameter "tone" "3"] 1 .noData :=
    AudioSource.turnsDownAt_succ.2 ⟨by decide, AudioSource.turnsDownAt_zero.2 (by decide)⟩
  have stopped :=
    ((present rfl).1 [⟨"gain", "1"⟩, ⟨"rate", "2"⟩, ⟨"tone", "3"⟩]).stops 1 _ turnsDown
  have remembers : unset.Remembers [] := ⟨rfl, rfl, rfl⟩
  obtain ⟨set_iff, gives⟩ := mock unset [] remembers
    [[⟨"gain", "1"⟩, ⟨"tone", "2"⟩], [⟨"gain", "3"⟩]] ["gain", "gain"]
  obtain ⟨found, answered⟩ := set_iff.2 (by simp)
  refine ⟨rfl, rfl, turnsDown, by rw [stopped]; rfl, by rw [stopped]; rfl, remembers, found,
    answered, (gives found answered).1⟩

/-! ## The input source -/

section Reported

variable {s : Session σ} {raw : String} {device : σ}

/-- A reported text is read as the source that it stands for, or refused with the session left as
the device is after the look. -/
theorem perform_inputSource (held : s.holdsSource = true)
    (reported : (s.source.parameter InputSource.parameterKey).run.run s.device =
      (.ok raw, device)) :
    (∀ source, InputSource.ofText raw = .ok source →
      s.perform .inputSource = (.answered (.source source), { s with device })) ∧
    ∀ failure, InputSource.ofText raw = .error failure →
      s.perform .inputSource = (.failed failure, { s with device }) := by
  have looked : (parameter InputSource.parameterKey).run.run s = (.ok raw, { s with device }) := by
    show attempt _ (fun source => source.parameter InputSource.parameterKey) s = _
    unfold attempt
    rw [if_pos held, reported]
  simp only [perform, control, inputSource, run_bind, looked]
  constructor <;>
  · intro ending read
    rw [read]
    rfl

end Reported

/-- The input source is the one of the number that the device reports: a numeral of 32 bits with
blanks around it and nothing else. -/
theorem input_source_exact (s : Session σ) (held : s.holdsSource = true) (raw : String) (device : σ)
    (reported : (s.source.parameter InputSource.parameterKey).run.run s.device =
      (.ok raw, device)) :
    (s.perform .inputSource).2 = { s with device } ∧
    (∀ answer, (s.perform .inputSource).1 = .answered answer ↔
      ∃ n : Int32, InputSource.Denotes raw n.toInt ∧ answer = .source (.ofNumber n)) ∧
    ((∀ n : Int32, ¬ InputSource.Denotes raw n.toInt) →
      ∃ why, (s.perform .inputSource).1 = .failed (.invalidArguments why)) ∧
    (∀ (n : Int32) (before after : List Char), Text.AllBlank before → Text.AllBlank after →
      raw.toList = before ++ (toString n.toInt).toList ++ after →
      (s.perform .inputSource).1 = .answered (.source (.ofNumber n))) ∧
    (∀ n m : Int32, InputSource.ofNumber n = .ofNumber m → n = m) ∧
    ∀ k : Int32, 0 ≤ k → k ≤ 9 →
      (s.perform .inputSource).1 ≠ .answered (.source (.other k)) := by
  obtain ⟨read, refused⟩ := perform_inputSource held reported
  have answered_iff : ∀ answer, (s.perform .inputSource).1 = .answered answer ↔
      ∃ n : Int32, InputSource.Denotes raw n.toInt ∧ answer = .source (.ofNumber n) := by
    intro answer
    constructor
    · intro answered
      cases text : InputSource.ofText raw with
      | ok source =>
          rw [read source text] at answered
          obtain ⟨n, denotes, rfl⟩ := InputSource.ofText_eq_ok_iff.1 text
          cases answered
          exact ⟨n, denotes, rfl⟩
      | error failure =>
          rw [refused failure text] at answered
          cases answered
    · rintro ⟨n, denotes, rfl⟩
      rw [read _ (InputSource.ofText_eq_ok_iff.2 ⟨n, denotes, rfl⟩)]
  refine ⟨?_, answered_iff, ?_, ?_, fun n m => InputSource.ofNumber_inj, ?_⟩
  · cases text : InputSource.ofText raw with
    | ok source => rw [read source text]
    | error failure => rw [refused failure text]
  · intro none
    obtain ⟨reason, text⟩ := InputSource.ofText_of_not_denotes none
    exact ⟨_, by rw [refused _ text]⟩
  · intro n before after front back padded
    exact (answered_iff _).2 ⟨n, InputSource.denotes_padded front back padded, rfl⟩
  · intro k least most answered
    obtain ⟨n, -, same⟩ := (answered_iff _).1 answered
    injection same with same
    exact InputSource.ofNumber_ne_other least most n same.symm

/-- A simulated device that reports the source of number seven, with zeros and blanks. -/
def hearing : Session Simulated where
  config := {}
  source := Simulated.source
  device := { pattern := .silent, parameters := .ofList [⟨"input_source", "\u00a0 +007\t"⟩] }

theorem input_source_exact_padded_seven :
    hearing.holdsSource = true ∧
    (hearing.source.parameter InputSource.parameterKey).run.run hearing.device =
      (.ok "\u00a0 +007\t", hearing.device) ∧
    (hearing.perform .inputSource).1 = .answered (.source .voiceCommunication) := by
  have reported : (hearing.source.parameter InputSource.parameterKey).run.run hearing.device =
      (.ok "\u00a0 +007\t", hearing.device) := rfl
  obtain ⟨-, answered_iff, -⟩ := input_source_exact hearing rfl _ _ reported
  have trims : Text.Trims "\u00a0 +007\t".toList ['+', '0', '0', '7'] :=
    ⟨⟨['\u00a0', ' '], ['\t'], by decide, by decide, by decide⟩, by rintro _ ⟨⟩; decide,
      by rintro _ ⟨⟩; decide⟩
  have numeral : Text.Numeral ['+', '0', '0', '7'] (7 : Int32).toInt := .plus (by decide)
  exact ⟨rfl, reported, (answered_iff _).2 ⟨7, ⟨_, trims, numeral⟩, rfl⟩⟩

end Session

end AudioCapture
