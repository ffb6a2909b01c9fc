import AudioCapture.Proofs.Session.Lifecycle

/-!
# Release of the device

A session that has let go of its device has closed it once, and what reaches the device afterwards
are reads of a thread that was abandoned (`Freed.move`). Calls that need the device are refused
from then on (`perform_of_released`). Every session ends so, since to let go of one is to close it
(`released_once`).
-/

namespace AudioCapture

namespace Session

variable {σ : Type} {inner : AudioSource σ} {config : SessionConfig}
  {s t : Session (Logged σ)}

/-! ## The calls of a device -/

/-- The device was closed once, and has been read at most since. -/
def ClosedOnce (calls : List DeviceCall) : Prop :=
  ∃ before after, calls = before ++ .close :: after ∧ DeviceCall.close ∉ before ∧
    ∀ call ∈ after, ∃ offered, call = .read offered

theorem closedOnce_concat {calls : List DeviceCall} (unclosed : DeviceCall.close ∉ calls) :
    ClosedOnce (calls ++ [.close]) := ⟨calls, [], rfl, unclosed, nofun⟩

theorem ClosedOnce.append {calls reads : List DeviceCall} (h : ClosedOnce calls)
    (only : ∀ call ∈ reads, ∃ offered, call = .read offered) : ClosedOnce (calls ++ reads) := by
  obtain ⟨before, after, rfl, unclosed, reading⟩ := h
  refine ⟨before, after ++ reads, by rw [List.append_assoc]; rfl, unclosed, ?_⟩
  intro call member
  rcases List.mem_append.1 member with earlier | later
  · exact reading call earlier
  · exact only call later

theorem ClosedOnce.count {calls : List DeviceCall} (h : ClosedOnce calls) :
    calls.count .close = 1 := by
  obtain ⟨before, after, rfl, unclosed, reading⟩ := h
  have never : DeviceCall.close ∉ after := by
    intro member
    obtain ⟨offered, same⟩ := reading _ member
    cases same
  rw [List.count_append, List.count_cons_self, List.count_eq_zero.2 unclosed,
    List.count_eq_zero.2 never]

/-! ## The invariant -/

/-- A session without its device has closed it once. -/
def Freed (s : Session (Logged σ)) : Prop :=
  s.holdsSource = false → ClosedOnce s.device.calls

theorem Freed.beside {made : List DeviceCall} (h : s.Freed) (beside : s.Beside t made) :
    t.Freed := by
  intro gone
  rw [beside.calls]
  exact (h (beside.sameSide.holdsSource.symm.trans gone)).append beside.reads

theorem Freed.move {times : Duration → Prop} (move : s.Move times t) (sound : s.Sound)
    (wired : s.source = Logged.source inner) (h : s.Freed) : t.Freed := by
  cases move with
  | passed made passed =>
    intro gone
    have before := passed.sameSide.holdsSource.symm.trans gone
    rw [passed.calls, passed.unmade before, List.append_nil]
    exact h before
  | beside made beside => exact h.beside beside
  | equipped | ran | unstarted | prepared | brokeDown => exact h
  | closedAtOnce now timely unclosed idle =>
    intro _
    have held := sound.held unclosed
    rw [calls_endClose (s := { s with closed := true }) wired held none]
    exact closedOnce_concat (sound.unreleased held)
  | @closed t c now timeout made timely unclosed thread time beside =>
    intro _
    have held := sound.held unclosed
    rw [calls_endClose (beside.wired wired) (beside.sameSide.holdsSource.trans held), beside.calls]
    refine closedOnce_concat ?_
    rw [List.mem_append]
    exact fun closing => closing.elim (sound.unreleased held) beside.unclosed

theorem Orderly.freed_run (h : s.Orderly inner config) (freed : s.Freed)
    {events : List SessionEvent} (timely : ∀ event ∈ events, event.Timely config) :
    (s.run events).Freed := by
  have both : (s.run events).Orderly inner config ∧ (s.run events).Freed := by
    refine run_induction (fun s => s.Orderly inner config ∧ s.Freed) ?_ h.wired ⟨h, freed⟩
      events timely
    intro s t move kept
    exact ⟨kept.1.move move, kept.2.move move kept.1.sound kept.1.wired⟩
  exact both.2

/-! ## Calls without the device -/

/-- Whether a call needs the device: all but looks at the session, and closing. -/
def needsDevice : Call → Bool
  | .state | .isClosed | .config | .diagnostics | .close => false
  | _ => true

/-- A session without its device refuses every call that needs it, and stays as it is. -/
theorem perform_of_released (wired : s.source = Logged.source inner)
    (gone : s.holdsSource = false) {call : Call} (needs : needsDevice call = true) :
    s.perform call = (.failed .closed, s) := by
  by_cases goes : isRelayed call = true
  · exact perform_of_gone wired goes gone
  cases call with
  | setup host size count priority =>
    show s.control (setup host size count priority) (fun _ => .done) = _
    have ends := s.setup_cases host size count priority
    unfold control
    generalize (setup host size count priority).run.run s = ended at ends ⊢
    cases ends with
    | closed => rfl
    | repeated held | refused _ _ held | unstarted _ _ held | done held =>
      exact absurd (gone.symm.trans held) nofun
  | state | isClosed | config | diagnostics | close => cases needs
  | _ => exact absurd rfl goes

/-! ## All of it -/

/-- To let go of a session is to close it, also if it is closed already. -/
theorem dropDuring_snd (s : Session σ) (now : Duration) (meanwhile : Session σ → Session σ) :
    (s.dropDuring now meanwhile).2 = (s.closeDuring now meanwhile).2 := by
  unfold dropDuring
  split
  · rename_i closed
    rw [closeDuring_of_closed closed]
  · rfl

theorem freed_create {device : σ}
    (created : create (Logged.source inner) { device } config = .ok s) : s.Freed := by
  obtain ⟨new, -, unclosed⟩ := orderly_create created
  intro gone
  exact absurd (gone.symm.trans (new.sound.held unclosed)) nofun

/-- **Release**: whatever is asked of a session before it is let go of, and whatever its thread
does up to then, while it is waited for and afterwards, the device is closed exactly once, and
nobody but the thread reaches it after that. A session that was closed before refuses every call
that needs the device. -/
theorem released_once {device : σ} {s₀ : Session (Logged σ)}
    (created : create (Logged.source inner) { device } config = .ok s₀)
    (events : List SessionEvent) (timely : ∀ event ∈ events, event.Timely config)
    (now : Duration) (fits : config.JoinFits now) (meanwhile later : List AsideEvent) :
    let s := s₀.run events
    let gone := (s.dropDuring now fun next => next.happenAll meanwhile).2.happenAll later
    ClosedOnce gone.device.calls ∧ gone.device.calls.count .close = 1 ∧
      (events.any SessionEvent.isClosing = true →
        ∀ call, needsDevice call = true → s.perform call = (.failed .closed, s)) := by
  intro s gone
  obtain ⟨new, -, unclosed⟩ := orderly_create created
  have orderly : s.Orderly inner config := new.run timely
  -- letting go is one more event, after which the session is closed
  let last := SessionEvent.close now meanwhile
  have soon : last.Timely config := by
    intro time member
    cases member
    exact fits
  have closed : (s.step last).closed = true := by
    rw [orderly.closed_step soon]
    exact Bool.or_true _
  have after := orderly.step soon
  have freed : (s.step last).Freed :=
    (new.freed_run (freed_create created) timely).move (step_move orderly.wired last soon)
      orderly.sound orderly.wired
  have once : ClosedOnce gone.device.calls := by
    obtain ⟨made, beside⟩ := happenAll_beside (s := s.step last) after.wired later
    have same : gone = (s.step last).happenAll later := by
      show (s.dropDuring now _).2.happenAll later = _
      rw [dropDuring_snd]
      rfl
    rw [same]
    exact freed.beside beside (beside.sameSide.holdsSource.trans (after.ended closed).1)
  refine ⟨once, once.count, ?_⟩
  intro closing call needs
  have before : s.closed = true := by
    rw [new.closed_run timely, closing]
    exact Bool.or_true _
  exact perform_of_released orderly.wired (orderly.ended before).1 needs

/-- A session that is closed twice while its thread, which has taken a grant, has yet to begin a
read; the thread is abandoned, and the read begins after the device was closed. -/
def releaseSample : List SessionEvent :=
  .call (.setup {} 4 2 .normal) :: .aside (.consumer .requestSpace) ::
    List.replicate 4 (.aside (.thread .proceed)) ++ [.close closingTime [], .call .close]

theorem released_abandoned :
    ∃ s₀ : Session (Logged Scripted),
      create (Logged.source Scripted.full) { device := {} } {} = .ok s₀ ∧
        (∀ event ∈ releaseSample, event.Timely {}) ∧
        let s := s₀.run releaseSample
        let gone := (s.dropDuring closingTime fun next => next.happenAll []).2.happenAll
          [.thread .proceed]
        gone.device.calls = [.close, .read 8] ∧ ClosedOnce gone.device.calls ∧
          s.perform (.setParameters []) = (.failed .closed, s) := by
  have timely : ∀ event ∈ releaseSample, event.Timely {} := by decide
  obtain ⟨once, -, refused⟩ := @released_once Scripted Scripted.full {} {} _ rfl releaseSample
    timely closingTime (by decide) [] [.thread .proceed]
  exact ⟨_, rfl, timely, by rfl, once, refused rfl (.setParameters []) rfl⟩

end Session

end AudioCapture
