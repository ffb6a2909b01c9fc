import AudioCapture.Proofs.Capture.Stopping
import AudioCapture.Proofs.Session.Release

/-!
# Reads of a session that is closed

Closing a session stops its thread: it begins at most one more read, and none after the device was
closed if it has come to its end by then, or is in a read or in its request for a priority
(`stopping_bounded`). The reads of a device are those that the thread's steps begin (`Traced`), so
this follows from what is known of the thread alone.
-/

namespace AudioCapture

namespace Session

variable {σ : Type} {inner : AudioSource σ} {config : SessionConfig}
  {s t : Session (Logged σ)} {c d : Capture} {start : List DeviceCall}

/-! ## Reads and steps of the thread -/

/-- The transport has taken steps since it was `c`, and the device has been read as often as reads
began in them, after the calls `start`; nothing else has been asked of it. -/
def Traced (c : Capture) (start : List DeviceCall) (s : Session (Logged σ)) : Prop :=
  ∃ events, s.capture = some (c.run events) ∧
    s.device.calls = start ++ (c.offers events).map DeviceCall.read

theorem traced_refl (here : s.capture = some c) : s.Traced c s.device.calls :=
  ⟨[], here, (List.append_nil _).symm⟩

/-- A step of the transport, followed by the session. -/
theorem Traced.follow (h : s.Traced c start) (wired : s.source = Logged.source inner)
    (here : s.capture = some d) (event : CaptureEvent) :
    (s.follow (d.step event)).Traced c start := by
  obtain ⟨events, there, calls⟩ := h
  obtain rfl := Option.some.inj (here.symm.trans there)
  have moved : c.run (events ++ [event]) = ((c.run events).step event).1 := c.run_append _ _
  have begun : c.offers (events ++ [event]) =
      c.offers events ++ ((c.run events).step event).2.offered.toList := by
    rw [Capture.offers_append, Capture.offers_cons]
    exact congrArg _ (List.append_nil _)
  refine ⟨events ++ [event], ?_, ?_⟩
  · rw [moved]
    unfold Session.follow
    dsimp only
    split <;> rfl
  · rw [begun]
    unfold Session.follow
    dsimp only
    split
    · rename_i none
      rw [none, Option.toList_none, List.append_nil]
      exact calls
    · rename_i free some
      have kept := Logged.calls_pass (.read free) (inner.read free) s.device
      rw [show Logged.pass _ _ = s.source.read free by rw [wired]; rfl, calls] at kept
      rw [some, Option.toList_some, List.map_append, ← List.append_assoc]
      exact kept

theorem Traced.advance (h : s.Traced c start) (wired : s.source = Logged.source inner)
    (event : ThreadEvent) : (s.advance event).Traced c start := by
  obtain ⟨d, here⟩ : ∃ d, s.capture = some d := ⟨_, h.choose_spec.1⟩
  cases event with
  | proceed =>
    simp only [Session.advance, here]
    exact h.follow wired here .proceed
  | expire =>
    simp only [Session.advance, here]
    exact h.follow wired here .expire
  | comeBack =>
    cases pending : s.pendingRead with
    | none =>
      simp only [Session.advance, here, pending]
      exact h
    | some read =>
      simp only [Session.advance, here, pending]
      split
      · exact h
      · exact Traced.follow (s := { s with pendingRead := none }) h wired here (.returned read)
  | letGo =>
    simp only [Session.advance, here]
    split
    · exact h.follow wired here .letGo
    · exact h

/-- A step of the transport that begins no read. -/
theorem Traced.beside (h : s.Traced c start) (here : s.capture = some d) (event : CaptureEvent)
    (quiet : (d.step event).2.offered = none) :
    Traced c start { s with capture := some (d.step event).1 } := by
  obtain ⟨events, there, calls⟩ := h
  obtain rfl := Option.some.inj (here.symm.trans there)
  refine ⟨events ++ [event], congrArg some (c.run_append events [event]).symm, ?_⟩
  rw [Capture.offers_append, Capture.offers_cons, quiet]
  exact calls.trans (congrArg _ (congrArg _ (List.append_nil _).symm))

theorem Traced.consume (h : s.Traced c start) (event : ConsumerEvent) :
    (s.consume event).Traced c start := by
  unfold Session.consume
  split
  · rename_i d held here
    cases event with
    | requestSpace => exact h.beside here (.wake .spaceReady) rfl
    | takeData => exact h.beside here (.take .dataReady) rfl
    | drain most => exact h.beside here (.drain most) rfl
    | nextRecord => exact h.beside here .nextRecord rfl
    | leave => exact h
  · exact h

theorem Traced.happen (h : s.Traced c start) (wired : s.source = Logged.source inner)
    (event : AsideEvent) : (s.happen event).Traced c start := by
  cases event with
  | thread event => exact h.advance wired event
  | consumer event => exact h.consume event
  | release => exact h

theorem Traced.happenAll (h : s.Traced c start) (wired : s.source = Logged.source inner)
    (events : List AsideEvent) : (s.happenAll events).Traced c start := by
  induction events generalizing s with
  | nil => exact h
  | cons event events ih =>
    obtain ⟨made, beside⟩ := happen_beside wired event
    exact ih (h.happen wired event) (beside.wired wired)

/-! ## A session that is closed -/

/-- The owner's side of a session that was closed and has released its device. -/
structure Shut (inner : AudioSource σ) (s : Session (Logged σ)) : Prop where
  closed : s.closed = true
  released : s.holdsSource = false
  state : s.state = .closed
  wired : s.source = Logged.source inner

/-- A session that is closed is left as it is by everything but what its transport still does; it
can be given another requester, which nobody asks any more. -/
theorem Shut.step_cases (h : s.Shut inner) (event : SessionEvent) :
    (∃ requester, s.step event = { s with requester }) ∨
      ∃ aside, event = .aside aside := by
  have same : ∀ {next : Session (Logged σ)}, next = s → ∃ requester, next = { s with requester } :=
    fun same => ⟨s.requester, same⟩
  cases event with
  | aside event => exact .inr ⟨event, rfl⟩
  | equip requester => exact .inl ⟨requester, rfl⟩
  | close now meanwhile =>
    exact .inl (same (congrArg Prod.snd (closeDuring_of_closed h.closed)))
  | call call =>
    refine .inl (same ?_)
    show (s.perform call).2 = s
    by_cases needs : needsDevice call = true
    · rw [perform_of_released h.wired h.released needs]
    cases call with
    | close => rw [perform_of_closed h.closed]
    | state =>
      show s.lookAtState.2 = s
      simp [lookAtState, h.state]
    | isClosed | config | diagnostics => rfl
    | _ => exact absurd rfl needs

theorem Shut.step (h : s.Shut inner) (event : SessionEvent) : (s.step event).Shut inner := by
  rcases h.step_cases event with ⟨requester, same⟩ | ⟨aside, rfl⟩
  · rw [same]
    exact ⟨h.closed, h.released, h.state, h.wired⟩
  · obtain ⟨made, beside⟩ := happen_beside h.wired aside
    have side := beside.sameSide
    exact ⟨side.closed.trans h.closed, side.holdsSource.trans h.released,
      side.state.trans h.state, beside.wired h.wired⟩

theorem Traced.step (h : s.Traced c start) (shut : s.Shut inner) (event : SessionEvent) :
    (s.step event).Traced c start := by
  rcases shut.step_cases event with ⟨requester, same⟩ | ⟨aside, rfl⟩
  · rw [same]
    exact h
  · exact h.happen shut.wired aside

theorem Traced.run (h : s.Traced c start) (shut : s.Shut inner) (events : List SessionEvent) :
    (s.run events).Traced c start := by
  induction events generalizing s with
  | nil => exact h
  | cons event events ih => exact ih (h.step shut event) (shut.step event)

/-! ## Closing -/

/-- What the thread of `s` does to the device when it is asked to stop: `gone` is the session when
closing has let the thread go at `d`, and `last` is what has become of it later, with the thread at
`e`. The reads that began are `during` and `after`, by the room they were offered. -/
structure LetGo (s gone last : Session (Logged σ)) (d e : Capture) (during after : List Nat) :
    Prop where
  left : gone.capture = some d
  goes : last.capture = some e
  closing : gone.device.calls = s.device.calls ++ during.map .read ++ [.close]
  later : last.device.calls = gone.device.calls ++ after.map .read
  once : during.length + after.length ≤ 1
  /-- A thread that was joined is in no read and begins none. -/
  joined : d.point.isFinal = true → after = [] ∧ e.point = d.point
  /-- Nor does one begin a read that was left in a read, or in its request for a priority. -/
  held : (∃ free, d.point = .reading free) ∨ d.point = .requesting → after = []

theorem Orderly.shut (h : s.Orderly inner config) (closed : s.closed = true) : s.Shut inner :=
  ⟨closed, (h.ended closed).1, (h.ended closed).2, h.wired⟩

theorem Reached.marked (h : Reached c) : c.control.Marked := by
  obtain ⟨size, count, priority, requester, events, -, rfl⟩ := h
  exact Capture.marked_run (c := .fresh size count priority requester) ⟨nofun, nofun, nofun⟩ events

theorem Orderly.letGo (h : s.Orderly inner config) (thread : s.thread? = some c)
    (reached : Reached c) {now : Duration} (fits : config.JoinFits now)
    (meanwhile : List AsideEvent) (later : List SessionEvent) :
    let gone := (s.closeDuring now fun next => next.happenAll meanwhile).2
    ∃ d e during after, LetGo s gone (gone.run later) d e during after := by
  intro gone
  have unclosed : s.closed = false := by
    cases closed : s.closed with
    | false => rfl
    | true => exact absurd (holdsTransport_of_thread? thread) (by rw [h.sound.parted closed]; nofun)
  let last := SessionEvent.close now meanwhile
  have timely : last.Timely config := by
    intro time member
    cases member
    exact fits
  have closed : gone.closed = true := (h.closed_step timely).trans (Bool.or_true _)
  have shut : gone.Shut inner := (h.step timely).shut closed
  -- closing asks the thread to stop, waits, joins it, and closes the device
  let asked := c.requestStop
  let t := (s.parted c).happenAll meanwhile
  obtain ⟨before, here, calls⟩ : t.Traced asked s.device.calls :=
    (traced_refl (s := s.parted c) rfl).happenAll h.wired meanwhile
  obtain ⟨made, beside⟩ := happenAll_beside (s := s.parted c) h.wired meanwhile
  have ends : gone = t.endClose (some _) :=
    congrArg Prod.snd (closeDuring_of_ok unclosed thread (joinTime_of_fits (h.configured ▸ fits)))
  have left : gone.capture = some (asked.run (before ++ [.join])) := by
    rw [ends, endClose_some here, Capture.run_append]
    rfl
  have closing : gone.device.calls = t.device.calls ++ [.close] := by
    rw [ends]
    exact calls_endClose (beside.wired h.wired)
      (beside.sameSide.holdsSource.trans (h.sound.held unclosed)) _
  obtain ⟨after, goes, reads⟩ := (traced_refl left).run shut later
  have stopping : asked.stopFlag = true := Capture.stopFlag_requestStop reached.marked
  obtain ⟨stops, -, begun⟩ := Capture.run_nearer stopping (before ++ [.join])
  have more := (Capture.run_nearer stops after).2.2
  have most := asked.point.readsLeft_le
  refine ⟨_, _, asked.offers before, _, left, goes, ?_, reads, ?_, ?_, ?_⟩
  · rw [closing, calls]
  · rw [Capture.offers_append, List.length_append] at begun
    omega
  · intro final
    have none : (asked.run (before ++ [.join])).point.readsLeft = 0 := by
      cases point : (asked.run (before ++ [.join])).point with
      | waiting | granted =>
        rw [point] at final
        cases final
      | _ => rfl
    exact ⟨Capture.offers_eq_nil stops none after, Capture.point_run_of_isFinal final after⟩
  · rintro (⟨free, point⟩ | point) <;> exact Capture.offers_eq_nil stops (by rw [point]; rfl) after

theorem capture_create {device : Logged σ}
    (created : create (Logged.source inner) device config = .ok s) : s.capture = none := by
  unfold create at created
  split at created
  · cases created
  · cases created
    rfl

/-! ## All of it -/

/-- **Stopping is bounded**: a thread that is asked to stop, wherever it stands then, begins at most
one more read and comes to its end in eight steps of its own, whatever the consumer does and
whatever comes back of its read. So closing a session lets at most one more read begin, and none
once the device was closed if the thread was joined, or was in a read or in its request for a
priority. -/
theorem stopping_bounded {device : σ} {s₀ : Session (Logged σ)}
    (created : create (Logged.source inner) { device } config = .ok s₀)
    (events : List SessionEvent) (timely : ∀ event ∈ events, event.Timely config)
    (now : Duration) (fits : config.JoinFits now) (meanwhile : List AsideEvent)
    (later : List SessionEvent) :
    let s := s₀.run events
    let gone := (s.closeDuring now fun next => next.happenAll meanwhile).2
    (∀ c, Reached c → c.stopFlag = true → c.Stops) ∧
      ∀ c, s.thread? = some c → c.requestStop.Stops ∧
        ∃ d e during after, LetGo s gone (gone.run later) d e during after := by
  intro s gone
  obtain ⟨new, -, -⟩ := orderly_create created
  have orderly : s.Orderly inner config := new.run timely
  have stops : ∀ c, Reached c → c.stopFlag = true → c.Stops := by
    rintro c ⟨size, count, priority, requester, before, -, rfl⟩ stopping
    exact Capture.stops before stopping
  refine ⟨stops, fun c thread => ?_⟩
  have reached : Reached c :=
    capture_of_run new.wired (capture_create created) events (capture_of_thread? thread)
  have asked : c.requestStop.stopFlag = true := Capture.stopFlag_requestStop reached.marked
  exact ⟨stops c.requestStop (reached.run [.stop, .stop, .stop]) asked,
    orderly.letGo thread reached fits meanwhile later⟩

/-- A session that is closed while its thread waits and a grant is there: the thread still begins a
read and is abandoned in it, and when that comes back there is another grant. -/
def stoppingSample : List SessionEvent :=
  .call (.setup {} 4 2 .normal) :: List.replicate 3 (.aside (.thread .proceed)) ++
    [.aside (.consumer .requestSpace)]

theorem stopping_abandoned :
    ∃ s₀ : Session (Logged Scripted),
      create (Logged.source Scripted.full) { device := {} } {} = .ok s₀ ∧
        (∀ event ∈ stoppingSample, event.Timely {}) ∧
        let s := s₀.run stoppingSample
        let gone := (s.closeDuring closingTime fun next =>
          next.happenAll [.thread .proceed, .thread .proceed]).2
        let last := gone.run (.aside (.consumer .requestSpace) :: .aside (.thread .comeBack) ::
          List.replicate 5 (.aside (.thread .proceed)))
        last.device.calls = [.read 8, .close] ∧
          ∃ c, s.thread? = some c ∧ c.requestStop.Stops ∧
            ∃ d e during after, LetGo s gone last d e during after := by
  have timely : ∀ event ∈ stoppingSample, event.Timely {} := by decide
  obtain ⟨-, letGo⟩ := @stopping_bounded Scripted Scripted.full {} {} _ rfl stoppingSample timely
    closingTime (by decide) [.thread .proceed, .thread .proceed]
    (.aside (.consumer .requestSpace) :: .aside (.thread .comeBack) ::
      List.replicate 5 (.aside (.thread .proceed)))
  exact ⟨_, rfl, timely, by rfl, _, rfl, letGo _ rfl⟩

end Session

end AudioCapture
