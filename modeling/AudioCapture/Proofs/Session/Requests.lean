import AudioCapture.Proofs.Capture.Requests
import AudioCapture.Proofs.Session.SingleSteps

/-!
# Priority requests of a session

A session asks for a priority at most once, for that of its one transport, and before it reads from
its device (`Asking`). Whom it asks and what for is settled when it is set up
(`Installed.run`). A session whose thread cannot get past its request stays prepared until it
is closed, and does not read (`Stalled`).
-/

namespace AudioCapture

namespace Session

variable {σ : Type} {inner : AudioSource σ} {s t : Session (Logged σ)} {c d : Capture}

/-- The device has not been read. -/
def Unread (s : Session (Logged σ)) : Prop := ∀ free, DeviceCall.read free ∉ s.device.calls

theorem Unread.of_eq (h : s.Unread) (same : t.device = s.device) : t.Unread := by
  intro free
  rw [same]
  exact h free

theorem Unread.passed {made : List DeviceCall} (h : s.Unread) (passed : s.Passed t made) :
    t.Unread := by
  intro free
  rw [passed.calls, List.mem_append]
  exact fun reading => reading.elim (h free) (passed.unread free)

/-- Closing a device does not read from it. -/
theorem Unread.endClose (h : s.Unread) (wired : s.source = Logged.source inner)
    (timeout? : Option Duration) : (s.endClose timeout?).Unread := by
  have closed : (s.source.close.run s.device).2.calls = s.device.calls ++ [.close] := by
    rw [wired]
    exact Logged.calls_pass .close inner.close s.device
  have device : (s.endClose timeout?).device =
      if s.holdsSource then (s.source.close.run s.device).2 else s.device := by
    cases timeout? with
    | none => rw [endClose_none]
    | some timeout =>
      cases here : s.capture with
      | none => simp only [Session.endClose, releaseSource_eq, here]; rfl
      | some c => rw [endClose_some here]
  intro free
  rw [device]
  split
  · rw [closed, List.mem_append]
    exact fun reading => reading.elim (h free) (by simp)
  · exact h free

/-! ## Asking once -/

/-- What holds of the requests of every session. -/
structure Asking (inner : AudioSource σ) (s : Session (Logged σ)) : Prop where
  wired : s.source = Logged.source inner
  idle : s.state = .idle → s.capture = none
  unprepared : s.capture = none → s.requests = [] ∧ s.Unread
  asked : ∀ c, s.capture = some c → s.requests = c.asked
  ahead : ∀ c, s.capture = some c → c.point.isAhead = true → s.Unread
  elevated : ∀ c, s.capture = some c → c.point = .requesting → c.priority.isElevated = true

theorem Asking.congr (h : s.Asking inner) (source : t.source = s.source)
    (state : t.state = .idle → s.state = .idle) (capture : t.capture = s.capture)
    (requests : t.requests = s.requests) (unread : s.Unread → t.Unread) : t.Asking inner := by
  refine ⟨source.trans h.wired, ?_, ?_, ?_, ?_, ?_⟩
  · intro idle
    exact capture.trans (h.idle (state idle))
  · rw [capture, requests]
    exact fun none => (h.unprepared none).imp_right unread
  · rw [capture, requests]
    exact h.asked
  · rw [capture]
    exact fun c here ahead => unread (h.ahead c here ahead)
  · rw [capture]
    exact h.elevated

/-- A step of the transport, followed by the session. -/
theorem Asking.follow (h : s.Asking inner) (here : s.capture = some c) (event : CaptureEvent) :
    (s.follow (c.step event)).Asking inner := by
  have asks := c.step_asks event
  obtain ⟨device, pendingRead, same, quiet⟩ := s.follow_eq (c.step event)
  rw [same]
  refine ⟨h.wired, ?_, nofun, ?_, ?_, ?_⟩
  · intro idle
    exact absurd ((h.idle idle).symm.trans here) nofun
  · intro d there
    cases there
    rw [asks.asked, ← h.asked c here]
  · intro d there ahead
    cases there
    obtain ⟨before, none⟩ := asks.ahead ahead
    exact (h.ahead c here before).of_eq (quiet none)
  · intro d there requesting
    cases there
    rw [asks.priority]
    exact (asks.elevated requesting).elim (h.elevated c here) id

/-- A step of the transport that the session does not follow. -/
theorem Asking.recapture (h : s.Asking inner) (here : s.capture = some c) (asks : c.Asks (d, {})) :
    Asking inner { s with capture := some d } := by
  refine ⟨h.wired, ?_, nofun, ?_, ?_, ?_⟩
  · intro idle
    exact absurd ((h.idle idle).symm.trans here) nofun
  · intro e there
    cases there
    rw [asks.asked]
    exact (h.asked c here).trans (List.append_nil _).symm
  · intro e there ahead
    cases there
    exact h.ahead c here (asks.ahead ahead).1
  · intro e there requesting
    cases there
    rw [asks.priority]
    exact (asks.elevated requesting).elim (h.elevated c here) id

theorem Asking.asideStep (h : s.Asking inner) (aside : s.AsideStep t) : t.Asking inner := by
  cases aside with
  | still => exact h
  | thread c event here threads => exact h.follow here event
  | returned c read here pending =>
    have taken : Asking inner { s with pendingRead := none } := h.congr rfl id rfl rfl id
    exact taken.follow here (.returned read)
  | consumer c event here consumers =>
    refine h.recapture here ?_
    cases event with
    | wake | take | drain | nextRecord => exact Capture.asks_of_silent rfl rfl rfl (.inl ⟨rfl, rfl⟩)
    | _ => cases consumers
  | left => exact h.congr rfl id rfl rfl id
  | released => exact h.congr rfl id rfl rfl id

/-- The first half of closing asks the thread to stop, in three steps. -/
theorem Asking.parted (h : s.Asking inner) (here : s.capture = some c) :
    (s.parted c).Asking inner := by
  have first := h.recapture here c.stop_asks
  have second := first.recapture rfl c.stop.stop_asks
  have third := second.recapture rfl c.stop.stop.stop_asks
  exact third.congr rfl id rfl rfl id

theorem Asking.singleStep (h : s.Asking inner) (single : s.SingleStep t) : t.Asking inner := by
  cases single with
  | passed made passed =>
    have side := passed.sameSide
    refine h.congr side.source (fun idle => side.state ▸ idle) ?_ ?_ fun unread =>
      unread.passed passed
    · rw [passed.same]
    · rw [passed.same]
  | aside aside => exact h.asideStep aside
  | equipped requester => exact h.congr rfl id rfl rfl id
  | ran prepared seen => exact h.congr rfl nofun rfl rfl id
  | prepared size count priority idle unclosed =>
    obtain ⟨none, unread⟩ := h.unprepared (h.idle idle)
    refine ⟨h.wired, nofun, nofun, ?_, fun _ _ _ => unread, ?_⟩
    · intro c there
      cases there
      exact none.trans (Capture.asked_fresh size count priority s.requester).symm
    · intro c there requesting
      cases there
      cases requesting
  | closedAtOnce unclosed idle =>
    have closing : Asking inner { s with closed := true } := h.congr rfl id rfl rfl id
    refine closing.congr ?_ ?_ ?_ ?_ fun unread => unread.endClose h.wired none
    · rw [endClose_none]
    · rw [endClose_none]; exact nofun
    · rw [endClose_none]
    · rw [endClose_none]
  | parted c unclosed thread => exact h.parted (capture_of_thread? thread)
  | letGo c timeout closed apart here =>
    have joined : Asking inner { s with capture := some c.join.1 } := h.recapture here c.join_asks
    refine joined.congr ?_ ?_ ?_ ?_ fun unread =>
      Unread.endClose (s := s) unread h.wired (some timeout)
    · rw [endClose_some here]; rfl
    · rw [endClose_some here]; exact nofun
    · rw [endClose_some here]; rfl
    · rw [endClose_some here]; rfl

theorem asking_create {device : σ} {config : SessionConfig}
    (created : create (Logged.source inner) { device } config = .ok s) : s.Asking inner := by
  unfold create at created
  split at created
  · cases created
  · cases created
    refine ⟨rfl, fun _ => rfl, fun _ => ⟨rfl, fun _ => List.not_mem_nil⟩, ?_, ?_, ?_⟩
    all_goals
      intro c here
      cases here

theorem Asking.run (h : s.Asking inner) (sound : s.Sound) (events : List SessionEvent) :
    (s.run events).Asking inner :=
  singleStep_induction (Asking inner) (fun single h => h.singleStep single) h.wired sound h events

/-! ## Whom it asks -/

/-- The thread of the session asks that requester for that priority. -/
def Installed (requester : Requester) (priority : ThreadPriority) (s : Session σ) : Prop :=
  ∃ c, s.capture = some c ∧ c.requester = requester ∧ c.priority = priority

section Installed

variable {requester : Requester} {priority : ThreadPriority}

theorem Installed.recapture (h : Installed requester priority s) (here : s.capture = some c)
    {done : Capture × CaptureReply} (asks : c.Asks done) (there : t.capture = some done.1) :
    Installed requester priority t := by
  obtain ⟨d, same, asked, wish⟩ := h
  cases here.symm.trans same
  exact ⟨done.1, there, asks.requester.trans asked, asks.priority.trans wish⟩

theorem Installed.of_eq (h : Installed requester priority s) (same : t.capture = s.capture) :
    Installed requester priority t := by
  obtain ⟨c, here, asked⟩ := h
  exact ⟨c, same.trans here, asked⟩

theorem Installed.asideStep (h : Installed requester priority s) (aside : s.AsideStep t) :
    Installed requester priority t := by
  have followed : ∀ (s : Session (Logged σ)) (done : Capture × CaptureReply),
      (s.follow done).capture = some done.1 := by
    intro s done
    obtain ⟨device, pendingRead, same, -⟩ := s.follow_eq done
    rw [same]
  cases aside with
  | still => exact h
  | thread c event here threads => exact h.recapture here (c.step_asks event) (followed s _)
  | returned c read here pending => exact h.recapture here (c.step_asks _) (followed _ _)
  | consumer c event here consumers => exact h.recapture here (c.step_asks event) rfl
  | left => exact h.of_eq rfl
  | released => exact h.of_eq rfl

theorem Installed.singleStep (h : Installed requester priority s) (asking : s.Asking inner)
    (single : s.SingleStep t) : Installed requester priority t := by
  cases single with
  | passed made passed => exact h.of_eq (by rw [passed.same])
  | aside aside => exact h.asideStep aside
  | equipped | ran => exact h.of_eq rfl
  | prepared size count priority idle unclosed =>
    -- a session that is idle has no thread yet
    obtain ⟨c, here, -⟩ := h
    exact absurd ((asking.idle idle).symm.trans here) nofun
  | closedAtOnce unclosed idle => exact h.of_eq (by rw [endClose_none])
  | parted c unclosed thread =>
    have here := capture_of_thread? thread
    have first : Installed requester priority { s with capture := some c.stop } :=
      h.recapture here c.stop_asks rfl
    have second : Installed requester priority { s with capture := some c.stop.stop } :=
      first.recapture rfl c.stop.stop_asks rfl
    exact second.recapture rfl c.stop.stop.stop_asks rfl
  | letGo c timeout closed apart here =>
    exact h.recapture here c.join_asks (by rw [endClose_some here]; rfl)

/-- Whom the thread asks and what for stays as it is, whatever happens. -/
theorem Installed.run (h : Installed requester priority s) (asking : s.Asking inner)
    (sound : s.Sound) (events : List SessionEvent) :
    Installed requester priority (s.run events) := by
  have both : (s.run events).Asking inner ∧ Installed requester priority (s.run events) := by
    refine singleStep_induction (fun s => s.Asking inner ∧ Installed requester priority s) ?_
      asking.wired sound ⟨asking, h⟩ events
    intro s t single kept
    exact ⟨kept.1.singleStep single, kept.2.singleStep kept.1 single⟩
  exact both.2

end Installed

/-! ## Threads that get no further -/

/-- The thread asks for an elevated priority, and the request takes it with it or is held. -/
def Stuck (s : Session σ) (c : Capture) : Prop :=
  c.priority.isElevated = true ∧
    (c.Breaks ∨ c.requester.request c.priority = .held ∧ s.gateOpen = false)

theorem stuck_of_asks {done : Capture × CaptureReply} (asks : c.Asks done)
    (gate : s.gateOpen = true → t.gateOpen = true) (stuck : t.Stuck done.1) : s.Stuck c := by
  obtain ⟨elevated, stuck⟩ := stuck
  unfold Capture.Breaks at stuck
  rw [asks.requester, asks.priority] at stuck
  refine ⟨asks.priority ▸ elevated, stuck.imp_right fun held => ⟨held.1, ?_⟩⟩
  cases opened : s.gateOpen with
  | false => rfl
  | true => exact (gate opened).symm.trans held.2

/-- A thread that is stuck after a step beside the owner was stuck before, where it is now. -/
theorem AsideStep.stuck (aside : s.AsideStep t) (there : t.capture = some d) (stuck : t.Stuck d) :
    ∃ c, s.capture = some c ∧ s.Stuck c ∧
      (c.IsPenned → d.IsPenned ∧ d.state = c.state ∧ t.device = s.device) ∧
      t.closed = s.closed ∧ t.state = s.state := by
  -- a step that the session follows, of the session or of what is left when the read is taken
  have followed : ∀ {r : Session (Logged σ)} {c : Capture} {event : CaptureEvent},
      s.capture = some c → r.gateOpen = s.gateOpen → r.device = s.device → r.closed = s.closed →
      r.state = s.state → (event.isThreads s.gateOpen = true ∨ event.isConsumers = true ∨
        ∃ read, event = .returned read) → r.follow (c.step event) = t →
      ∃ c, s.capture = some c ∧ s.Stuck c ∧
        (c.IsPenned → d.IsPenned ∧ d.state = c.state ∧ t.device = s.device) ∧
        t.closed = s.closed ∧ t.state = s.state := by
    intro r c event here gate unread closed state beside ends
    obtain ⟨device, pendingRead, same, quiet⟩ := r.follow_eq (c.step event)
    rw [same] at ends
    subst ends
    cases there
    have before : s.Stuck c :=
      stuck_of_asks (c.step_asks event) (fun opened => gate.trans opened) stuck
    refine ⟨c, here, before, ?_, closed, state⟩
    intro penned
    have stays := Capture.step_penned penned before.1 before.2 beside
    exact ⟨stays.penned, stays.state, (quiet stays.offered).trans unread⟩
  cases aside with
  | still => exact ⟨d, there, stuck, fun penned => ⟨penned, rfl, rfl⟩, rfl, rfl⟩
  | thread c event here threads => exact followed here rfl rfl rfl rfl (.inl threads) rfl
  | returned c read here pending =>
    exact followed (r := { s with pendingRead := none }) here rfl rfl rfl rfl
      (.inr (.inr ⟨read, rfl⟩)) rfl
  | consumer c event here consumers =>
    cases there
    have before : s.Stuck c := stuck_of_asks (c.step_asks event) id stuck
    refine ⟨c, here, before, ?_, rfl, rfl⟩
    intro penned
    have stays := Capture.step_penned penned before.1 before.2 (.inr (.inl consumers))
    exact ⟨stays.penned, stays.state, rfl⟩
  | left => exact ⟨d, there, stuck, fun penned => ⟨penned, rfl, rfl⟩, rfl, rfl⟩
  | released =>
    refine ⟨d, there, ⟨stuck.1, .inl ?_⟩, fun penned => ⟨penned, rfl, rfl⟩, rfl, rfl⟩
    rcases stuck.2 with breaks | ⟨-, shut⟩
    · exact breaks
    · cases shut

/-- The session waits for a thread that is stuck: it has not been read from the device, and the
session is prepared until it is closed. -/
structure Stalls (s : Session (Logged σ)) (c : Capture) : Prop where
  penned : c.IsPenned
  unread : s.Unread
  waits : s.closed = false → c.state = .created ∧ s.state = .prepared

def Stalled (s : Session (Logged σ)) : Prop :=
  ∀ c, s.capture = some c → s.Stuck c → s.Stalls c

theorem Stalled.asideStep (h : s.Stalled) (aside : s.AsideStep t) : t.Stalled := by
  intro d there stuck
  obtain ⟨c, here, before, stays, closed, state⟩ := aside.stuck there stuck
  obtain ⟨penned, unread, waits⟩ := h c here before
  obtain ⟨still, same, device⟩ := stays penned
  refine ⟨still, unread.of_eq device, ?_⟩
  rw [closed, same, state]
  exact waits

theorem Stalled.singleStep (h : s.Stalled) (asking : s.Asking inner) (single : s.SingleStep t) :
    t.Stalled := by
  cases single with
  | aside aside => exact h.asideStep aside
  | passed made passed =>
    have side := passed.sameSide
    intro c there stuck
    rw [passed.same] at there stuck
    obtain ⟨penned, unread, waits⟩ := h c there stuck
    refine ⟨penned, unread.passed passed, ?_⟩
    rw [side.closed, side.state]
    exact waits
  | equipped requester =>
    intro c here stuck
    obtain ⟨penned, unread, waits⟩ := h c here stuck
    exact ⟨penned, unread, waits⟩
  | ran prepared seen =>
    intro c here stuck
    obtain ⟨penned, unread, waits⟩ := h c here stuck
    refine ⟨penned, unread, ?_⟩
    -- the thread does not run, so it was not seen to
    intro unclosed
    cases thread : s.thread? with
    | none =>
      rw [thread] at seen
      cases seen
    | some d =>
      cases here.symm.trans (capture_of_thread? thread)
      rw [thread, Option.any_some, decide_eq_true_iff, (waits unclosed).1] at seen
      cases seen
  | prepared size count priority idle unclosed =>
    intro c there stuck
    cases there
    exact ⟨.inl rfl, (asking.unprepared (asking.idle idle)).2, fun _ => ⟨rfl, rfl⟩⟩
  | closedAtOnce unclosed idle =>
    intro c there stuck
    have unread : s.Unread → (endClose { s with closed := true } none).Unread :=
      fun unread => Unread.endClose (s := { s with closed := true }) unread asking.wired none
    rw [endClose_none] at there stuck unread ⊢
    obtain ⟨penned, none, -⟩ := h c there stuck
    exact ⟨penned, unread none, nofun⟩
  | parted c unclosed thread =>
    intro d there stuck
    cases there
    have third : Stuck s c.stop.stop := stuck_of_asks c.stop.stop.stop_asks id stuck
    have second : Stuck s c.stop := stuck_of_asks c.stop.stop_asks id third
    have first : Stuck s c := stuck_of_asks c.stop_asks id second
    obtain ⟨penned, unread, -⟩ := h c (capture_of_thread? thread) first
    refine ⟨?_, unread, nofun⟩
    exact c.stop.stop.stop_asks.penned c.stop.stop.point_stop
      (c.stop.stop_asks.penned c.stop.point_stop (c.stop_asks.penned c.point_stop penned))
  | letGo c timeout closed apart here =>
    intro d there stuck
    have unread := fun unread : s.Unread => unread.endClose asking.wired (some timeout)
    rw [endClose_some here] at there stuck unread ⊢
    cases there
    obtain ⟨penned, none, -⟩ := h c here (stuck_of_asks c.join_asks id stuck)
    refine ⟨c.join_asks.penned c.point_join penned, unread none, ?_⟩
    intro unclosed
    exact absurd (closed.symm.trans unclosed) nofun

theorem stalled_create {device : σ} {config : SessionConfig}
    (created : create (Logged.source inner) { device } config = .ok s) : s.Stalled := by
  intro c here stuck
  have none : s.capture = none := (asking_create created).idle (by
    unfold create at created
    split at created
    · cases created
    · cases created
      rfl)
  exact absurd (none.symm.trans here) nofun

theorem Stalled.run (h : s.Stalled) (asking : s.Asking inner) (sound : s.Sound)
    (events : List SessionEvent) : (s.run events).Stalled := by
  have both : (s.run events).Asking inner ∧ (s.run events).Stalled := by
    refine singleStep_induction (fun s => s.Asking inner ∧ s.Stalled) ?_ asking.wired sound
      ⟨asking, h⟩ events
    intro s t single kept
    exact ⟨kept.1.singleStep single, kept.2.singleStep kept.1 single⟩
  exact both.2

/-- The state of a thread that was let go of while it was stuck: it is marked as exited if it was
joined, and as stopping if it was left in its request. -/
def leftState (d : Capture) : WorkerState := if d.point = .brokenDown then .exited else .stopping

theorem diagnostics_of_left (apart : s.holdsTransport = false) {last : Diagnostics}
    (kept : s.lastDiagnostics = some last) : s.diagnostics = last := by
  simp [diagnostics, thread?, apart, kept]

theorem state_join_of_stopping (stopping : d.state = .stopping) :
    d.join.1.state = leftState d.join.1 := by
  unfold leftState
  rw [d.point_join]
  unfold Capture.join
  split
  · rename_i broken
    rw [if_pos broken]
  · rename_i unbroken
    rw [if_neg unbroken]
    exact stopping

/-- A session whose thread is stuck can be closed. -/
theorem Stalled.closing (h : s.Stalled) (asking : s.Asking inner) (sound : s.Sound)
    (here : s.capture = some c) (stuck : s.Stuck c) (marked : c.control.Marked)
    (unclosed : s.closed = false) {event : SessionEvent} (closing : event.isClosing = true)
    (timely : event.Timely s.config) :
    (s.reply event).ending = some (.answered .done) ∧ (s.step event).state = .closed ∧
      ∀ d, (s.step event).capture = some d → (s.step event).Stuck d →
        (s.step event).Unread ∧
          (s.step event).diagnostics.workerState = some (leftState d) := by
  obtain ⟨created, prepared⟩ := (h c here stuck).waits unclosed
  have transport : s.holdsTransport = true := by
    rw [← sound.state unclosed, prepared]
    rfl
  have thread : s.thread? = some c := (if_pos transport).trans here
  have unread : ∀ d, (s.step event).capture = some d → (s.step event).Stuck d →
      (s.step event).Unread := by
    intro d there stuck
    exact ((h.run asking sound [event]) d there stuck).unread
  obtain ⟨now, meanwhile, time, ending, ends, keeps, beside⟩ := s.closing_cases asking.wired closing
  have fits := joinTime_of_fits (timely now time)
  have torn := sound.tornDown_of_ok asking.wired unclosed thread fits (beside c)
  rw [closeDuring_of_ok unclosed thread fits] at ending ends torn
  refine ⟨ending, ends ▸ torn.state, fun d there stuck => ⟨unread d there stuck, ?_⟩⟩
  -- while the thread is waited for it stays as it was marked
  have stopping : ∀ d, (meanwhile (s.parted c)).capture = some d →
      (meanwhile (s.parted c)).Stuck d → d.IsPenned ∧ d.state = .stopping := by
    refine keeps (fun t => ∀ d, t.capture = some d → t.Stuck d → d.IsPenned ∧ d.state = .stopping)
      ?_ (s.parted c) ?_
    · intro s t aside kept d there stuck
      obtain ⟨b, before, wasStuck, stays, -⟩ := aside.stuck there stuck
      obtain ⟨penned, state⟩ := kept b before wasStuck
      obtain ⟨still, same, -⟩ := stays penned
      exact ⟨still, same.trans state⟩
    · intro d there stuck
      have parted : (s.parted c).Stalled := h.singleStep asking (.parted c unclosed thread)
      have penned := (parted d there stuck).penned
      cases there
      exact ⟨penned, Capture.state_requestStop marked created⟩
  obtain ⟨made, beside⟩ := beside c
  obtain ⟨e, left⟩ := beside.thread
  have apart : (meanwhile (s.parted c)).holdsTransport = false := beside.sameSide.holdsTransport
  rw [ends] at there stuck ⊢
  rw [endClose_some left] at there stuck ⊢
  cases there
  obtain ⟨-, state⟩ := stopping e left (stuck_of_asks e.join_asks id stuck)
  refine (congrArg Diagnostics.workerState (diagnostics_of_left ?_ rfl)).trans ?_
  · exact apart
  · exact congrArg some (state_join_of_stopping state)

/-- It cannot be closed if the end of the wait for its thread cannot be told. -/
theorem ending_of_late (wired : s.source = Logged.source inner) (unclosed : s.closed = false)
    (thread : s.thread? = some c) {event : SessionEvent} (closing : event.isClosing = true)
    (late : ¬ event.Timely s.config) :
    ∃ breakdown, (s.reply event).ending = some (.brokeDown breakdown) := by
  obtain ⟨now, meanwhile, time, ending, -⟩ := s.closing_cases wired closing
  have misfit : ¬ s.config.JoinFits now := by
    intro fits
    refine late fun now' time' => ?_
    cases Option.some.inj (time.symm.trans time')
    exact fits
  obtain ⟨breakdown, time⟩ := joinTime_of_not_fits misfit
  rw [closeDuring_of_error unclosed thread time] at ending
  exact ⟨breakdown, ending⟩

end Session

end AudioCapture
