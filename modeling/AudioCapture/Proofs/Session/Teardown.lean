import AudioCapture.Proofs.Session.Moves
import AudioCapture.Source.Scripted

/-!
# Closing a session

Closing tears a session down, whatever its capture thread is doing and whatever happens while that
is waited for, if the wait ends at a time that the clock can show (`closeDuring_tornDown_iff`).
Otherwise it stops halfway: the session counts as closed, but its device has not been released and
nothing will release it. `Sound` is the invariant of all sessions, also of those left halfway.

* `joinTime_of_fits`, `joinTime_of_not_fits` — when the end of the wait can be told;
* `Sound.move` — the invariant;
* `close_breaks_down` — an accepted configuration with which closing stops halfway.
-/

namespace AudioCapture

/-! ## The time to wait -/

/-- The wait for the capture thread ends while the clock can still show it. -/
def SessionConfig.JoinFits (config : SessionConfig) (now : Duration) : Prop :=
  now.nanoseconds + config.waitTimeoutMs.toNat * 1000000 * config.joinRetryBound.toNat <
    (Session.lastSecond + 1) * Duration.nanosecondsPerSecond

instance (config : SessionConfig) (now : Duration) : Decidable (config.JoinFits now) :=
  inferInstanceAs (Decidable (_ < _))

namespace Session

theorem lastSecond_lt_iff (d : Duration) :
    lastSecond < d.seconds ↔
      (lastSecond + 1) * Duration.nanosecondsPerSecond ≤ d.nanoseconds :=
  Nat.le_div_iff_mul_le (by decide)

theorem checkedWait_some (now timeout : Duration) :
    checkedWait now (some timeout) =
      if (lastSecond + 1) * Duration.nanosecondsPerSecond ≤
          now.nanoseconds + timeout.nanoseconds then .error .deadlineOverflow
      else .ok timeout := by
  simp only [checkedWait, lastSecond_lt_iff, Duration.plus]

theorem joinTime_of_fits {config : SessionConfig} {now : Duration} (fits : config.JoinFits now) :
    joinTime now config =
      .ok ⟨config.waitTimeoutMs.toNat * 1000000 * config.joinRetryBound.toNat⟩ := by
  unfold SessionConfig.JoinFits at fits
  have timeout : config.joinTimeout? =
      some ⟨config.waitTimeoutMs.toNat * 1000000 * config.joinRetryBound.toNat⟩ := by
    refine Duration.scale_eq_some_iff.2 ⟨rfl, ?_⟩
    simp only [lastSecond, Duration.Representable, Duration.seconds,
      Duration.nanosecondsPerSecond, UInt64.size] at fits ⊢
    omega
  rw [joinTime, timeout, checkedWait_some]
  exact if_neg (Nat.not_le.2 fits)

theorem joinTime_of_not_fits {config : SessionConfig} {now : Duration}
    (late : ¬ config.JoinFits now) : ∃ breakdown, joinTime now config = .error breakdown := by
  rw [joinTime]
  cases timeout : config.joinTimeout? with
  | none => exact ⟨.timeoutOverflow, rfl⟩
  | some timeout =>
    -- the time itself can be told, so it is its end that cannot
    obtain ⟨rfl, -⟩ := Duration.scale_eq_some_iff.1 timeout
    refine ⟨.deadlineOverflow, ?_⟩
    rw [checkedWait_some]
    exact if_pos (Nat.not_lt.1 late)

variable {σ : Type} {inner : AudioSource σ} {s t : Session (Logged σ)}

/-! ## The invariant -/

/-- What holds of every session, also of one whose closing broke down. -/
structure Sound (s : Session (Logged σ)) : Prop where
  held : s.closed = false → s.holdsSource = true
  unreleased : s.holdsSource = true → DeviceCall.close ∉ s.device.calls
  thread : s.holdsTransport = true → s.capture.isSome = true
  parted : s.closed = true → s.holdsTransport = false
  state : s.closed = false → s.state.hasTransport = s.holdsTransport
  unstored : s.closed = false → s.lastDiagnostics = none
  unended : s.holdsSource = true → s.state ≠ .closed
  /-- A closed session that still has its device was left halfway. -/
  halfway : s.closed = true → s.holdsSource = true → s.state.hasTransport = true

/-- The invariant is about the owner's side, and about whether there is a transport and whether
the device was closed. -/
theorem Sound.congr (h : s.Sound) (side : s.SameSide t)
    (thread : t.capture.isSome = s.capture.isSome)
    (unclosed : DeviceCall.close ∈ t.device.calls → DeviceCall.close ∈ s.device.calls) :
    t.Sound := by
  obtain ⟨held, unreleased, threaded, parted, state, unstored, unended, halfway⟩ := h
  constructor <;> simp only [side.closed, side.holdsSource, side.state, side.holdsTransport,
    side.lastDiagnostics, thread]
  · exact held
  · intro holds closing
    exact unreleased holds (unclosed closing)
  · exact threaded
  · exact parted
  · exact state
  · exact unstored
  · exact unended
  · exact halfway

theorem Sound.passed {made : List DeviceCall} (h : s.Sound) (passed : s.Passed t made) :
    t.Sound := by
  refine h.congr passed.sameSide (by rw [passed.same]) ?_
  intro closing
  rw [passed.calls, List.mem_append] at closing
  exact closing.resolve_right passed.unclosed

theorem Sound.beside {made : List DeviceCall} (h : s.Sound) (beside : s.Beside t made) :
    t.Sound := by
  obtain ⟨events, moved⟩ := beside.capture
  refine h.congr beside.sameSide (by rw [moved, Option.isSome_map]) ?_
  intro closing
  rw [beside.calls, List.mem_append] at closing
  exact closing.resolve_right beside.unclosed

theorem holdsTransport_of_thread? {s : Session σ} {c : Capture} (h : s.thread? = some c) :
    s.holdsTransport = true := by
  unfold thread? at h
  split at h
  · assumption
  · cases h

theorem Sound.holdsTransport_of_none (h : s.Sound) (idle : s.thread? = none) :
    s.holdsTransport = false := by
  cases holds : s.holdsTransport with
  | false => rfl
  | true =>
    obtain ⟨c, here⟩ := Option.isSome_iff_exists.1 (h.thread holds)
    rw [thread?, if_pos holds, here] at idle
    cases idle

/-- A session that has its device, and no transport by its state, is one that was never set up. -/
theorem Sound.idle (h : s.Sound) (held : s.holdsSource = true)
    (idle : s.state.hasTransport = false) : s.state = .idle ∧ s.closed = false := by
  have unended := h.unended held
  refine ⟨?_, ?_⟩
  · cases state : s.state with
    | idle => rfl
    | closed => exact absurd state unended
    | prepared | running =>
      rw [state] at idle
      cases idle
  · -- a session that was left halfway keeps the state of one with a transport
    cases closed : s.closed with
    | false => rfl
    | true => exact absurd (idle.symm.trans (h.halfway closed held)) nofun

theorem Sound.move {times : Duration → Prop} (move : s.Move times t) (h : s.Sound) : t.Sound := by
  cases move with
  | passed made passed => exact h.passed passed
  | beside made beside => exact h.beside beside
  | equipped requester => exact h.congr ⟨rfl, rfl, rfl, rfl, rfl, rfl, rfl⟩ rfl id
  | ran state seen =>
    refine ⟨h.held, h.unreleased, h.thread, h.parted, ?_, h.unstored, fun _ => nofun,
      fun _ _ => rfl⟩
    intro unclosed
    rw [← h.state unclosed, state]
    rfl
  | unstarted notice held idle =>
    -- the state is the one that the session had before
    obtain ⟨same, unclosed⟩ := h.idle held idle
    refine h.congr ⟨rfl, rfl, same.symm, rfl, rfl, rfl, rfl⟩ rfl id
  | prepared size count priority held idle =>
    obtain ⟨-, unclosed⟩ := h.idle held idle
    refine ⟨h.held, h.unreleased, fun _ => rfl, ?_, fun _ => rfl, h.unstored, fun _ => nofun,
      fun _ _ => rfl⟩
    intro closed
    exact absurd (unclosed.symm.trans closed) Bool.false_ne_true
  | closedAtOnce now timely unclosed idle =>
    rw [endClose_none]
    exact ⟨nofun, nofun, h.thread, fun _ => h.holdsTransport_of_none idle, nofun, nofun, nofun,
      nofun⟩
  | brokeDown c now breakdown timely unclosed thread time =>
    have transport := holdsTransport_of_thread? thread
    refine ⟨nofun, h.unreleased, nofun, fun _ => rfl, nofun, nofun, h.unended, ?_⟩
    intro _ _
    show s.state.hasTransport = true
    rw [h.state unclosed, transport]
  | @closed t c now timeout made timely unclosed thread time beside =>
    obtain ⟨d, here⟩ := beside.thread
    have closed : t.closed = true := beside.sameSide.closed
    have apart : t.holdsTransport = false := beside.sameSide.holdsTransport
    have never : ∀ {p : Prop}, t.closed = false → p :=
      fun opened => absurd (closed.symm.trans opened) nofun
    rw [endClose_some here]
    exact {
      held := never
      unreleased := nofun
      thread := fun holds => absurd (apart.symm.trans holds) nofun
      parted := fun _ => apart
      state := never
      unstored := never
      unended := nofun
      halfway := nofun }

theorem sound_create {device : Logged σ} {config : SessionConfig}
    (created : create (Logged.source inner) device config = .ok s)
    (fresh : device.calls = []) : s.Sound := by
  unfold create at created
  split at created
  · cases created
  · cases created
    refine ⟨fun _ => rfl, ?_, nofun, nofun, fun _ => rfl, fun _ => rfl, fun _ => nofun, nofun⟩
    intro _
    rw [fresh]
    exact nofun

/-- A new session has the configuration and the device that it was made with. -/
theorem equipment_create {device : Logged σ} {config : SessionConfig}
    (created : create (Logged.source inner) device config = .ok s) :
    s.config = config ∧ s.source = Logged.source inner := by
  unfold create at created
  split at created
  · cases created
  · cases created
    exact ⟨rfl, rfl⟩

/-! ## Both ways that closing can end -/

/-- What is to be left of a session that is closed: the end of its thread's accounts, and a device
that was released once. Up to then it was read at most. -/
structure TornDown (s : Session (Logged σ)) (done : CallEnd × Session (Logged σ)) : Prop where
  answered : done.1 = .answered .done
  closed : done.2.closed = true
  state : done.2.state = .closed
  transport : done.2.holdsTransport = false
  diagnostics : s.holdsTransport = true →
    ∃ c, done.2.capture = some c ∧ done.2.lastDiagnostics = some c.diagnostics
  calls : ∃ reads, (∀ call ∈ reads, ∃ offered, call = DeviceCall.read offered) ∧
    done.2.device.calls = s.device.calls ++ reads ++ [.close]
  once : done.2.device.calls.count .close = 1

/-- What is left of a session whose closing breaks down: it counts as closed, but has neither got
the state nor the accounts of its thread, and its device is never released. -/
structure LeftHalfway (s : Session (Logged σ)) (done : CallEnd × Session (Logged σ)) : Prop where
  brokeDown : ∃ breakdown, done.1 = .brokeDown breakdown
  closed : done.2.closed = true
  state : done.2.state = s.state ∧ s.state.hasTransport = true
  transport : done.2.holdsTransport = false
  diagnostics : done.2.lastDiagnostics = none
  calls : done.2.device.calls = s.device.calls ∧ DeviceCall.close ∉ s.device.calls
  forGood : ∀ now meanwhile, done.2.dropDuring now meanwhile = (.answered .done, done.2)

/-- The last thing that closing does to a device that the session still has is to close it. -/
theorem calls_endClose (wired : s.source = Logged.source inner) (held : s.holdsSource = true)
    (timeout? : Option Duration) :
    (s.endClose timeout?).device.calls = s.device.calls ++ [.close] := by
  -- letting the thread go has left the device to the session
  have released : ∀ parted : Session (Logged σ), parted.source = s.source →
      parted.device = s.device → parted.holdsSource = true →
      (({ parted with state := .closed }.releaseSource).note .sessionClosed).device.calls =
        s.device.calls ++ [.close] := by
    intro parted source device held
    rw [releaseSource_eq]
    show (if parted.holdsSource then (parted.source.close.run parted.device).2
      else parted.device).calls = _
    rw [if_pos held, source, device, wired]
    exact Logged.calls_pass .close inner.close s.device
  unfold endClose
  cases timeout? with
  | none => exact released s rfl rfl held
  | some timeout =>
    cases s.capture with
    | none => exact released s rfl rfl held
    | some c => exact released (s.letThreadGo timeout c) rfl rfl held

theorem Sound.tornDown_of_none (h : s.Sound) (wired : s.source = Logged.source inner)
    (unclosed : s.closed = false) (idle : s.thread? = none) {now : Duration}
    {meanwhile : Session (Logged σ) → Session (Logged σ)} :
    s.TornDown (s.closeDuring now meanwhile) := by
  have transport := h.holdsTransport_of_none idle
  have held := h.held unclosed
  rw [closeDuring_of_none unclosed idle]
  have calls : (endClose { s with closed := true } none).device.calls =
      s.device.calls ++ [.close] :=
    calls_endClose (s := { s with closed := true }) wired held none
  refine ⟨rfl, ?_, ?_, ?_, ?_, ⟨[], nofun, ?_⟩, ?_⟩
  · rw [endClose_none]
  · rw [endClose_none]
  · rw [endClose_none]
    exact transport
  · intro holds
    exact absurd (transport.symm.trans holds) nofun
  · rw [List.append_nil]
    exact calls
  · rw [calls, List.count_append, List.count_eq_zero.2 (h.unreleased held)]
    rfl

theorem Sound.tornDown_of_ok (h : s.Sound) (wired : s.source = Logged.source inner)
    (unclosed : s.closed = false) {c : Capture} (thread : s.thread? = some c)
    {now timeout : Duration} (timely : joinTime now s.config = .ok timeout)
    {meanwhile : Session (Logged σ) → Session (Logged σ)}
    (beside : ∃ made, (s.parted c).Beside (meanwhile (s.parted c)) made) :
    s.TornDown (s.closeDuring now meanwhile) := by
  obtain ⟨made, beside⟩ := beside
  have held := h.held unclosed
  rw [closeDuring_of_ok unclosed thread timely]
  -- of what happens meanwhile no more is needed than what it leaves alone
  generalize meanwhile (s.parted c) = t at beside
  obtain ⟨d, here⟩ := beside.thread
  have calls : (t.endClose (some timeout)).device.calls = s.device.calls ++ made ++ [.close] := by
    rw [calls_endClose (beside.wired wired) (beside.sameSide.holdsSource.trans held), beside.calls]
    rfl
  refine ⟨rfl, ?_, ?_, ?_, fun _ => ⟨d.join.1, ?_⟩, ⟨made, beside.reads, calls⟩, ?_⟩
  · rw [endClose_some here]
    exact beside.sameSide.closed
  · rw [endClose_some here]
  · rw [endClose_some here]
    exact beside.sameSide.holdsTransport
  · rw [endClose_some here]
    exact ⟨rfl, rfl⟩
  · rw [calls, List.count_append, List.count_append, List.count_eq_zero.2 (h.unreleased held),
      List.count_eq_zero.2 beside.unclosed]
    rfl

theorem Sound.leftHalfway (h : s.Sound) (unclosed : s.closed = false) {c : Capture}
    (thread : s.thread? = some c) {now : Duration} {breakdown : Breakdown}
    (late : joinTime now s.config = .error breakdown)
    {meanwhile : Session (Logged σ) → Session (Logged σ)} :
    s.LeftHalfway (s.closeDuring now meanwhile) := by
  have transport : s.state.hasTransport = true :=
    (h.state unclosed).trans (holdsTransport_of_thread? thread)
  rw [closeDuring_of_error unclosed thread late]
  -- the session is marked as closed, so letting go of it does not close it again
  exact ⟨⟨breakdown, rfl⟩, rfl, ⟨rfl, transport⟩, rfl, h.unstored unclosed,
    ⟨rfl, h.unreleased (h.held unclosed)⟩, fun _ _ => rfl⟩

/-! ## When closing works -/

/-- Sessions as they come about: of a configuration that is accepted and a device that has not been
called yet. -/
theorem sound_run {device : σ} {config : SessionConfig}
    (created : create (Logged.source inner) { device } config = .ok s)
    (events : List SessionEvent) :
    (s.run events).Sound ∧ (s.run events).config = config ∧
      (s.run events).source = Logged.source inner := by
  obtain ⟨configured, wired⟩ := equipment_create created
  have always : ∀ event ∈ events, ∀ now ∈ event.closesAt?, True := fun _ _ _ _ => trivial
  refine run_induction (fun s => s.Sound ∧ s.config = config ∧ s.source = Logged.source inner)
    ?_ wired ⟨sound_create created rfl, configured, wired⟩ events always
  intro s t move kept
  obtain ⟨sound, configured, wired⟩ := kept
  obtain ⟨config, source⟩ := move.equipment
  exact ⟨sound.move move, config.trans configured, source.trans wired⟩

/-- **Teardown**: a session that is not closed, whatever has happened to it and whatever its thread
and its consumer do meanwhile, is torn down by closing exactly if it has no transport or the wait
for its thread ends at a time that the clock can show. If neither is so, it is left halfway. To let
go of the session is to close it. -/
theorem closeDuring_tornDown_iff {device : σ} {config : SessionConfig} {s₀ : Session (Logged σ)}
    (created : create (Logged.source inner) { device } config = .ok s₀)
    (events : List SessionEvent) (unclosed : (s₀.run events).closed = false) (now : Duration)
    (meanwhile : List AsideEvent) :
    let s := s₀.run events
    let done := s.closeDuring now fun next => next.happenAll meanwhile
    (s.TornDown done ↔ s.holdsTransport = false ∨ config.JoinFits now) ∧
      (¬ (s.holdsTransport = false ∨ config.JoinFits now) → s.LeftHalfway done) ∧
      (s.dropDuring now fun next => next.happenAll meanwhile) = done := by
  intro s done
  obtain ⟨sound, configured, wired⟩ := sound_run created events
  have halfway : ¬ (s.holdsTransport = false ∨ config.JoinFits now) → s.LeftHalfway done := by
    intro neither
    rw [not_or, Bool.not_eq_false] at neither
    obtain ⟨c, here⟩ := Option.isSome_iff_exists.1 (sound.thread neither.1)
    have thread : s.thread? = some c := (if_pos neither.1).trans here
    obtain ⟨breakdown, late⟩ := joinTime_of_not_fits neither.2
    rw [← configured] at late
    exact sound.leftHalfway unclosed thread late
  have torn : s.holdsTransport = false ∨ config.JoinFits now → s.TornDown done := by
    intro either
    cases thread : s.thread? with
    | none => exact sound.tornDown_of_none wired unclosed thread
    | some c =>
      have holds := holdsTransport_of_thread? thread
      have fits := either.resolve_left (by rw [holds]; exact nofun)
      have timely := joinTime_of_fits fits
      rw [← configured] at timely
      exact sound.tornDown_of_ok wired unclosed thread timely
        (happenAll_beside (s := s.parted c) wired meanwhile)
  refine ⟨⟨?_, torn⟩, halfway, if_neg (by rw [unclosed]; exact nofun)⟩
  intro done
  -- a session that is torn down has got an answer, and one that is left halfway has not
  by_cases either : s.holdsTransport = false ∨ config.JoinFits now
  · exact either
  · obtain ⟨breakdown, broke⟩ := (halfway either).brokeDown
    exact absurd (done.answered.symm.trans broke) nofun

/-- A session that is closed while its thread is in a read of the device, which comes back too
late. -/
theorem closeDuring_tornDown_reading :
    ∃ s₀ : Session (Logged Scripted),
      create (Logged.source Scripted.full) { device := {} } {} = .ok s₀ ∧
        let s := s₀.run (.call (.setup {} 4 2 .normal) :: .aside (.consumer .requestSpace) ::
          List.replicate 5 (.aside (.thread .proceed)))
        s.closed = false ∧ s.capture.map Capture.point = some (.reading 8) ∧
          s.TornDown (s.closeDuring closingTime fun next => next.happenAll []) :=
  ⟨_, rfl, rfl, rfl, (@closeDuring_tornDown_iff Scripted Scripted.full {} {} _ rfl
    (.call (.setup {} 4 2 .normal) :: .aside (.consumer .requestSpace) ::
      List.replicate 5 (.aside (.thread .proceed)))
    rfl closingTime []).1.2 (.inr (by decide))⟩

/-- A configuration that is accepted, and a session with it that closing leaves halfway. -/
theorem close_breaks_down :
    let config : SessionConfig :=
      { waitTimeoutMs := 18446744073709551615, joinRetryBound := 4294967295 }
    config.fault? = none ∧
      ∃ s₀ : Session (Logged Scripted),
        create (Logged.source Scripted.full) { device := {} } config = .ok s₀ ∧
          let s := s₀.run [.call (.setup {} 4 2 .normal)]
          s.closed = false ∧ s.close.1 = .brokeDown .timeoutOverflow ∧ ¬ s.TornDown s.close := by
  refine ⟨by decide, _, rfl, rfl, ?_⟩
  have broke : (Session.close (Session.run
      { config := { waitTimeoutMs := 18446744073709551615, joinRetryBound := 4294967295 }
        source := Logged.source Scripted.full
        device := { device := {} } }
      [.call (.setup {} 4 2 .normal)])).1 = .brokeDown .timeoutOverflow := by rfl
  exact ⟨broke, fun torn => absurd (torn.answered.symm.trans broke) nofun⟩

end Session

end AudioCapture
