import AudioCapture.Proofs.Capture.Counting
import AudioCapture.Proofs.Session.Survival

/-!
# Diagnostics of a session

What a session tells of its capture thread comes from nowhere before it is set up, from the thread
itself until it is closed, and from what was kept of the thread after that. Across all of this it
never goes back, and from closing on it does not change (`monotoneDiagnostics_run`).

* `Unset.step` — nothing is told of a session that was never set up;
* `Orderly.diagnostics_move` — no move takes anything back that was told;
* `Grows.pieced` — so a snapshot may be taken piece by piece;
* `Shut.diagnostics_run` — a closed session tells the same for good;
* `Joined` — what closing keeps of a thread that has come to its end by then.
-/

namespace AudioCapture

/-- Whether an event asks for the counts. -/
def SessionEvent.isInquiry : SessionEvent → Bool
  | .call .diagnostics => true
  | _ => false

/-- The snapshot that a call answers with. -/
def CallEnd.diagnostics? : CallEnd → Option Diagnostics
  | .answered (.diagnostics value) => some value
  | _ => none

namespace Session

variable {σ : Type} {inner : AudioSource σ} {config : SessionConfig}
  {s t : Session (Logged σ)} {c : Capture}

theorem diagnostics_of_thread (thread : s.thread? = some c) : s.diagnostics = c.diagnostics := by
  simp only [diagnostics, thread]

theorem diagnostics_of_apart (apart : s.holdsTransport = false) :
    s.diagnostics = s.lastDiagnostics.getD {} := by
  simp only [diagnostics, thread?, apart, Bool.false_eq_true, if_false]

/-! ## Before a setup -/

/-- A session that has never been set up. -/
structure Unset (inner : AudioSource σ) (s : Session (Logged σ)) : Prop where
  wired : s.source = Logged.source inner
  transport : s.holdsTransport = false
  capture : s.capture = none
  unstored : s.lastDiagnostics = none

theorem unset_create {device : Logged σ}
    (created : create (Logged.source inner) device config = .ok s) : s.Unset inner := by
  unfold create at created
  split at created
  · cases created
  · cases created
    exact ⟨rfl, rfl, rfl, rfl⟩

theorem Unset.thread? (h : s.Unset inner) : s.thread? = none := by
  simp only [Session.thread?, h.transport, Bool.false_eq_true, if_false]

theorem Unset.diagnostics (h : s.Unset inner) : s.diagnostics = {} := by
  rw [diagnostics_of_apart h.transport, h.unstored, Option.getD_none]

theorem Unset.congr (h : s.Unset inner) (side : s.SameSide t) (capture : t.capture = s.capture) :
    t.Unset inner :=
  ⟨side.source.trans h.wired, side.holdsTransport.trans h.transport, capture.trans h.capture,
    side.lastDiagnostics.trans h.unstored⟩

theorem Unset.setup (h : s.Unset inner) {host : Host} {size count : UInt32}
    {priority : ThreadPriority}
    (failed : (s.perform (.setup host size count priority)).1 ≠ .answered .done) :
    (s.perform (.setup host size count priority)).2.Unset inner := by
  change (s.control (Session.setup host size count priority) fun _ => .done).1 ≠ _ at failed
  show (s.control (Session.setup host size count priority) fun _ => .done).2.Unset inner
  have ends := s.setup_cases host size count priority
  unfold control at failed ⊢
  generalize (Session.setup host size count priority).run.run s = ended at ends failed
  cases ends with
  | done => exact absurd rfl failed
  | closed | repeated | refused | unstarted =>
    exact ⟨h.wired, h.transport, h.capture, h.unstored⟩

/-- A session that was never set up stays so in every step but a setup that works. -/
theorem Unset.step (h : s.Unset inner) (event : SessionEvent)
    (failed : event.isSetup = true → (s.reply event).ending ≠ some (.answered .done)) :
    (s.step event).Unset inner := by
  by_cases closing : event.isClosing = true
  · obtain ⟨now, meanwhile, -, -, ends, -⟩ := s.closing_cases h.wired closing
    rw [ends]
    cases closed : s.closed with
    | true =>
      rw [closeDuring_of_closed closed]
      exact h
    | false =>
      rw [closeDuring_of_none closed h.thread?, endClose_none]
      exact ⟨h.wired, h.transport, h.capture, h.unstored⟩
  cases event with
  | equip requester => exact ⟨h.wired, h.transport, h.capture, h.unstored⟩
  | close now meanwhile => exact absurd rfl closing
  | aside event =>
    obtain ⟨made, beside⟩ := happen_beside h.wired event
    obtain ⟨events, moved⟩ := beside.capture
    rw [h.capture] at moved
    exact h.congr beside.sameSide (moved.trans h.capture.symm)
  | call call =>
    show (s.perform call).2.Unset inner
    by_cases plain : isPassedOn call = true
    · obtain ⟨made, passed⟩ := perform_passed h.wired plain
      exact h.congr passed.sameSide (by rw [passed.same])
    cases call with
    | setup host size count priority =>
      exact h.setup fun done => failed rfl (congrArg some done)
    | state =>
      have same : s.lookAtState.2 = s := by simp [lookAtState, h.thread?]
      show s.lookAtState.2.Unset inner
      rw [same]
      exact h
    | close => exact absurd rfl closing
    | _ => exact absurd rfl plain

theorem Unset.run (h : s.Unset inner) {events : List SessionEvent}
    (failed : .answered .done ∉ s.endings SessionEvent.isSetup events) :
    (s.run events).Unset inner := by
  induction events generalizing s with
  | nil => exact h
  | cons event events ih =>
    rw [endings, List.mem_append, not_or] at failed
    refine ih (h.step event fun setup done => failed.1 ?_) failed.2
    rw [if_pos setup, done]
    exact List.mem_singleton_self _

/-! ## Never back -/

/-- Every snapshot of the transport of a session shows its counts as they are. -/
def Small (s : Session σ) : Prop := ∀ c, s.capture = some c → c.tally.Small

theorem Small.back {events : List CaptureEvent} (small : t.Small)
    (moved : t.capture = s.capture.map (·.run events)) : s.Small := by
  intro c here
  rw [here] at moved
  exact (small _ moved).of_atMost (c.tally_run events)

/-- A session whose transport has gone on shows no less of it, if it still has it. -/
theorem Beside.diagnostics {made : List DeviceCall} (beside : s.Beside t made) (small : t.Small) :
    s.diagnostics.AtMost t.diagnostics := by
  have side := beside.sameSide
  obtain ⟨events, moved⟩ := beside.capture
  cases holds : s.holdsTransport with
  | false =>
    rw [diagnostics_of_apart holds, diagnostics_of_apart (side.holdsTransport.trans holds),
      side.lastDiagnostics]
    exact .refl _
  | true =>
    cases here : s.capture with
    | none =>
      rw [here] at moved
      simp only [Session.diagnostics, Session.thread?, side.holdsTransport, holds, here, moved,
        side.lastDiagnostics]
      exact .refl _
    | some c =>
      rw [here] at moved
      have first : s.thread? = some c := by rw [Session.thread?, if_pos holds, here]
      have second : t.thread? = some (c.run events) := by
        rw [Session.thread?, if_pos (side.holdsTransport.trans holds), moved]
        rfl
      rw [diagnostics_of_thread first, diagnostics_of_thread second]
      exact Capture.diagnostics_run (small _ moved)

/-- What closing leaves of a session with a thread. -/
theorem Beside.closed {made : List DeviceCall} (beside : (s.parted c).Beside t made)
    (timeout : Duration) : ∃ events, (t.endClose (some timeout)).capture =
        some (c.requestStop.run events).join.1 ∧
      (t.endClose (some timeout)).diagnostics =
        (c.requestStop.run events).join.1.diagnostics := by
  obtain ⟨events, moved⟩ := beside.capture
  have here : t.capture = some (c.requestStop.run events) := moved
  refine ⟨events, ?_, ?_⟩
  · rw [endClose_some here]
    rfl
  · have apart : (t.endClose (some timeout)).holdsTransport = false := by
      rw [endClose_some here]
      exact beside.sameSide.holdsTransport
    rw [diagnostics_of_apart apart, endClose_some here]
    rfl

/-- Asking a thread to stop and joining it later are steps of its transport. -/
theorem join_requestStop_run (c : Capture) (events : List CaptureEvent) :
    (c.requestStop.run events).join.1 =
      c.run ([.stop, .stop, .stop] ++ events ++ [.join]) := by
  rw [List.append_assoc, Capture.run_append, Capture.run_append]
  rfl

/-- No move takes anything back that a session tells, and the counts were no larger before. -/
theorem Orderly.diagnostics_move (h : s.Orderly inner config) (parting : s.Parting)
    (move : s.Move config.JoinFits t) (small : t.Small) :
    s.diagnostics.AtMost t.diagnostics ∧ s.Small := by
  have still : ∀ {u : Session (Logged σ)}, u.capture = s.capture →
      u.diagnostics = s.diagnostics → u.Small → s.diagnostics.AtMost u.diagnostics ∧ s.Small :=
    fun capture same small => ⟨same ▸ .refl _, fun c here => small c (capture.trans here)⟩
  cases move with
  | passed made passed =>
    exact still (by rw [passed.same]) (by rw [passed.same]; rfl) small
  | beside made beside =>
    obtain ⟨events, moved⟩ := beside.capture
    exact ⟨beside.diagnostics small, small.back moved⟩
  | equipped | ran | unstarted => exact still rfl rfl small
  | prepared size count priority held idle =>
    obtain ⟨-, unclosed⟩ := h.sound.idle held idle
    have apart : s.holdsTransport = false := h.holdsTransport.trans idle
    have thread : s.thread? = none := by rw [Session.thread?, apart, if_neg Bool.false_ne_true]
    have none : s.capture = none := parting.idle unclosed thread
    refine ⟨?_, fun c here => by rw [none] at here; cases here⟩
    rw [diagnostics_of_apart apart, h.sound.unstored unclosed]
    exact Diagnostics.atMost_of_blank _
  | closedAtOnce now timely unclosed idle =>
    rw [endClose_none] at small ⊢
    exact still rfl rfl small
  | brokeDown c now breakdown timely unclosed thread time =>
    rw [h.configured, joinTime_of_fits timely] at time
    cases time
  | closed c now timeout made timely unclosed thread time beside =>
    obtain ⟨events, there, told⟩ := beside.closed timeout
    rw [join_requestStop_run] at there told
    refine ⟨?_, fun d here => ?_⟩
    · rw [diagnostics_of_thread thread, told]
      exact Capture.diagnostics_run (small _ there)
    · obtain rfl := Option.some.inj ((capture_of_thread? thread).symm.trans here)
      exact (small _ there).of_atMost (c.tally_run _)

/-- What is kept of a session over a run whose closings do not break down. -/
structure Kept (inner : AudioSource σ) (config : SessionConfig) (s : Session (Logged σ)) :
    Prop where
  orderly : s.Orderly inner config
  parting : s.Parting

theorem Kept.step (h : s.Kept inner config) {event : SessionEvent}
    (timely : event.Timely config) : (s.step event).Kept inner config :=
  ⟨h.orderly.step timely,
    step_induction (fun single kept => Parting.singleStep kept single) h.orderly.wired
      h.orderly.sound h.parting
      event⟩

theorem Kept.run (h : s.Kept inner config) {events : List SessionEvent}
    (timely : ∀ event ∈ events, event.Timely config) : (s.run events).Kept inner config := by
  induction events generalizing s with
  | nil => exact h
  | cons event events ih =>
    exact ih (h.step (timely event List.mem_cons_self))
      fun later member => timely later (List.mem_cons_of_mem _ member)

theorem Kept.diagnostics_run (h : s.Kept inner config) {events : List SessionEvent}
    (timely : ∀ event ∈ events, event.Timely config) (small : (s.run events).Small) :
    s.diagnostics.AtMost (s.run events).diagnostics ∧ s.Small := by
  induction events generalizing s with
  | nil => exact ⟨.refl _, small⟩
  | cons event events ih =>
    have soon := timely event List.mem_cons_self
    obtain ⟨later, kept⟩ := ih (h.step soon)
      (fun later member => timely later (List.mem_cons_of_mem _ member)) small
    obtain ⟨first, start⟩ :=
      h.orderly.diagnostics_move h.parting (step_move h.orderly.wired event soon) kept
    exact ⟨first.trans later, start⟩

/-- The snapshots that are asked for in a run never go back. -/
theorem Kept.inquiries (h : s.Kept inner config) {events : List SessionEvent}
    (timely : ∀ event ∈ events, event.Timely config) (small : (s.run events).Small) :
    let shown := (s.endings SessionEvent.isInquiry events).filterMap CallEnd.diagnostics?
    shown.Pairwise Diagnostics.AtMost ∧ ∀ last ∈ shown, s.diagnostics.AtMost last := by
  induction events generalizing s with
  | nil => exact ⟨.nil, nofun⟩
  | cons event events ih =>
    have soon := timely event List.mem_cons_self
    have later : ∀ event ∈ events, event.Timely config :=
      fun later member => timely later (List.mem_cons_of_mem _ member)
    obtain ⟨ordered, above⟩ := ih (h.step soon) later small
    have kept := ((h.step soon).diagnostics_run later small).2
    have first :=
      (h.orderly.diagnostics_move h.parting (step_move h.orderly.wired event soon) kept).1
    by_cases inquiry : event.isInquiry = true
    · cases event with
      | call call =>
        cases call with
        | diagnostics =>
          -- to ask changes nothing, so what follows is measured by what is told now
          have told : (s.reply (.call .diagnostics)).ending =
              some (.answered (.diagnostics s.diagnostics)) := rfl
          rw [endings_cons s inquiry told]
          refine ⟨List.pairwise_cons.2 ⟨above, ordered⟩, fun last member => ?_⟩
          rcases List.mem_cons.1 member with rfl | member
          · exact .refl _
          · exact above last member
        | _ => cases inquiry
      | _ => cases inquiry
    · rw [endings_cons_of_not s (by simpa using inquiry)]
      exact ⟨ordered, fun last member => first.trans (above last member)⟩

/-! ## After closing -/

/-- A closed session tells the same for good, whatever its transport still does. -/
theorem Shut.diagnostics_run (shut : s.Shut inner) (apart : s.holdsTransport = false)
    (later : List SessionEvent) : (s.run later).diagnostics = s.diagnostics := by
  induction later generalizing s with
  | nil => rfl
  | cons event later ih =>
    have same : (s.step event).holdsTransport = s.holdsTransport ∧
        (s.step event).lastDiagnostics = s.lastDiagnostics := by
      rcases shut.step_cases event with ⟨requester, same⟩ | ⟨aside, rfl⟩
      · rw [same]
        exact ⟨rfl, rfl⟩
      · obtain ⟨made, beside⟩ := happen_beside shut.wired aside
        exact ⟨beside.sameSide.holdsTransport, beside.sameSide.lastDiagnostics⟩
    have still : (s.step event).holdsTransport = false := same.1.trans apart
    rw [run_cons, ih (shut.step event) still, diagnostics_of_apart still, same.2,
      diagnostics_of_apart apart]

/-- What is known for good of a thread that closing has joined and left as `d`: `last` is the
session at any later moment. -/
structure Joined (d : Capture) (last : Session (Logged σ)) : Prop where
  exited : d.state = .exited
  told : last.diagnostics = d.diagnostics
  final : ∀ e, last.capture = some e → e.diagnostics = d.diagnostics

theorem Reached.showsEnd (h : Reached c) : c.control.ShowsEnd := by
  obtain ⟨size, count, priority, requester, events, -, rfl⟩ := h
  exact Capture.showsEnd_run (c := .fresh size count priority requester) nofun events

theorem Kept.joined (h : s.Kept inner config) (thread : s.thread? = some c) (reached : Reached c)
    {event : SessionEvent} (timely : event.Timely config) (closing : event.isClosing = true)
    {d : Capture} (left : (s.step event).capture = some d) (final : d.point.isFinal = true)
    (later : List SessionEvent) : Joined d ((s.step event).run later) := by
  have unclosed : s.closed = false := by
    cases closed : s.closed with
    | false => rfl
    | true =>
      have transport := holdsTransport_of_thread? thread
      rw [h.orderly.sound.parted closed] at transport
      cases transport
  have closed : (s.step event).closed = true := by
    rw [h.orderly.closed_step timely, closing, Bool.or_true]
  have after := (h.step timely).orderly
  have shut : (s.step event).Shut inner := after.shut closed
  -- what closing leaves of the thread, and what it keeps of it
  obtain ⟨now, meanwhile, time, -, ends, -, beside⟩ := s.closing_cases h.orderly.wired closing
  have fits : s.config.JoinFits now := h.orderly.configured ▸ timely now time
  obtain ⟨timeout, wait⟩ : ∃ timeout, joinTime now s.config = .ok timeout :=
    ⟨_, joinTime_of_fits fits⟩
  rw [closeDuring_of_ok unclosed thread wait] at ends
  obtain ⟨made, beside⟩ := beside c
  obtain ⟨events, there, told⟩ := beside.closed timeout
  have same : s.step event = (meanwhile (s.parted c)).endClose (some timeout) := ends
  rw [← same] at there told
  obtain rfl := Option.some.inj (there.symm.trans left)
  -- to join a thread leaves it where it is
  rw [Capture.point_join] at final
  have exited : (c.requestStop.run events).join.1.state = .exited :=
    Capture.state_join ((reached.run [.stop, .stop, .stop]).run events).showsEnd final
  refine ⟨exited, (shut.diagnostics_run (after.sound.parted closed) later).trans told, ?_⟩
  intro e goes
  obtain ⟨more, here, -⟩ := (traced_refl left).run shut later
  obtain rfl := Option.some.inj (here.symm.trans goes)
  exact Capture.diagnostics_run_of_isFinal (by rw [Capture.point_join]; exact final) exited more

/-! ## Moments of a run -/

/-- What is told at one moment of a run is nowhere behind what was told at an earlier one. -/
def Grows (s₀ : Session σ) (events : List SessionEvent) : Prop :=
  ∀ before between after, events = before ++ between ++ after →
    (s₀.run before).diagnostics.AtMost (s₀.run (before ++ between)).diagnostics

/-- A snapshot that is taken piece by piece while some things happen: the state of the thread and
every count are what would be told at a moment of their own. -/
structure Pieced (s : Session σ) (meanwhile : List SessionEvent) (shown : Diagnostics) : Prop where
  state : ∃ soon, soon <+: meanwhile ∧
    shown.workerState = (s.run soon).diagnostics.workerState
  counts : ∀ count, ∃ soon, soon <+: meanwhile ∧
    shown.get count = (s.run soon).diagnostics.get count

theorem Grows.pieced {s₀ : Session σ} {events before first between second after : List SessionEvent}
    (grows : s₀.Grows events) (parts : events = before ++ first ++ between ++ second ++ after)
    {shown more : Diagnostics} (piece : (s₀.run before).Pieced first shown)
    (last : (s₀.run (before ++ first ++ between)).Pieced second more) : shown.AtMost more := by
  -- a moment of the second snapshot comes after every moment of the first
  have moments : ∀ {soon late : List SessionEvent}, soon <+: first → late <+: second →
      ((s₀.run before).run soon).diagnostics.AtMost
        ((s₀.run (before ++ first ++ between)).run late).diagnostics := by
    rintro soon late ⟨rest, rfl⟩ ⟨tail, rfl⟩
    have less := grows (before ++ soon) (rest ++ between ++ late) (tail ++ after)
      (by simpa only [List.append_assoc] using parts)
    simpa only [run_append, List.append_assoc] using less
  obtain ⟨soon, early, state⟩ := piece.state
  obtain ⟨late, lately, state'⟩ := last.state
  refine ⟨?_, fun count => ?_⟩
  · have less := (moments early lately).stage
    unfold Diagnostics.stage at less ⊢
    rwa [state, state']
  · obtain ⟨soon, early, get⟩ := piece.counts count
    obtain ⟨late, lately, get'⟩ := last.counts count
    rw [get, get']
    exact (moments early lately).counts count

/-! ## All of it -/

/-- What a run from a new session tells of its capture thread. -/
structure MonotoneDiagnostics (s₀ : Session (Logged σ)) (events : List SessionEvent) : Prop where
  /-- Nothing, until a setup has worked. -/
  unset : ∀ before after, events = before ++ after →
    .answered .done ∉ s₀.endings SessionEvent.isSetup before → (s₀.run before).diagnostics = {}
  /-- What is told at one moment is nowhere behind what was told at an earlier one. -/
  grows : s₀.Grows events
  /-- Nor is a snapshot that is taken piece by piece behind one that was complete before. -/
  pieced : ∀ before first between second after,
    events = before ++ first ++ between ++ second ++ after → ∀ shown more,
      (s₀.run before).Pieced first shown →
        (s₀.run (before ++ first ++ between)).Pieced second more → shown.AtMost more
  /-- The same of the answers to all calls that ask for it. -/
  shown : ((s₀.endings SessionEvent.isInquiry events).filterMap CallEnd.diagnostics?).Pairwise
    Diagnostics.AtMost
  /-- Nothing changes after closing. -/
  frozen : ∀ before event after, events = before ++ event :: after → event.isClosing = true →
    (s₀.run events).diagnostics = ((s₀.run before).step event).diagnostics
  /-- If the closing has joined the thread, it is the last of it. -/
  joined : ∀ before event after, events = before ++ event :: after → event.isClosing = true →
    ∀ c d, (s₀.run before).thread? = some c → ((s₀.run before).step event).capture = some d →
      d.point.isFinal = true → Joined d (s₀.run events)

/-- **Diagnostics go forward and freeze**: whatever is asked of a session, and whatever its thread,
its consumer and the system do meanwhile, if its closings do not break down and no count of its
thread gets too large for a snapshot. -/
theorem monotoneDiagnostics_run {device : σ} {s₀ : Session (Logged σ)}
    (created : create (Logged.source inner) { device } config = .ok s₀)
    (events : List SessionEvent) (timely : ∀ event ∈ events, event.Timely config)
    (small : (s₀.run events).Small) : s₀.MonotoneDiagnostics events := by
  obtain ⟨new, -, -⟩ := orderly_create created
  have start : s₀.Kept inner config := ⟨new, parting_create created⟩
  have grows : s₀.Grows events := by
    rintro before between after rfl
    rw [List.forall_mem_append, List.forall_mem_append] at timely
    obtain ⟨⟨soon, next⟩, later⟩ := timely
    rw [run_append, run_append] at small
    rw [run_append]
    have less := (((start.run soon).run next).diagnostics_run later small).2
    exact ((start.run soon).diagnostics_run next less).1
  refine ⟨fun _ _ _ failed => ((unset_create created).run failed).diagnostics, grows,
    fun _ _ _ _ _ parts _ _ piece last => grows.pieced parts piece last,
    (start.inquiries timely small).1, ?_, ?_⟩
  · rintro before event after rfl closing
    rw [List.forall_mem_append, List.forall_mem_cons] at timely
    obtain ⟨soon, here, -⟩ := timely
    have orderly := ((start.run soon).step here).orderly
    have closed : ((s₀.run before).step event).closed = true := by
      rw [(start.run soon).orderly.closed_step here, closing, Bool.or_true]
    rw [run_append, run_cons]
    exact (orderly.shut closed).diagnostics_run (orderly.sound.parted closed) after
  · rintro before event after rfl closing c d thread left final
    rw [List.forall_mem_append, List.forall_mem_cons] at timely
    obtain ⟨soon, here, -⟩ := timely
    rw [run_append, run_cons]
    have reached : Reached c :=
      capture_of_run new.wired (capture_create created) before (capture_of_thread? thread)
    exact (start.run soon).joined thread reached here closing left final after

/-- A session that is asked before its setup has worked, while its thread runs, when the thread has
broken down in a read, and when it has been closed. -/
def diagnosticsSample : List SessionEvent :=
  [.call (.setup { startsThreads := false } 4 2 .normal), .call .diagnostics,
      .call (.setup {} 4 2 .normal)] ++
    List.replicate 3 (.aside (.thread .proceed)) ++
    [.call .diagnostics, .aside (.consumer .requestSpace), .aside (.thread .proceed),
      .aside (.thread .proceed), .aside (.thread .comeBack), .call .diagnostics,
      .close closingTime [], .aside (.consumer .nextRecord), .call .diagnostics]

theorem monotoneDiagnostics_sample :
    ∃ s₀ : Session (Logged Scripted),
      create (Logged.source Scripted.full) { device := { script := [⟨.breaksDown, false⟩] } } {} =
          .ok s₀ ∧
        (∀ event ∈ diagnosticsSample, event.Timely {}) ∧ (s₀.run diagnosticsSample).Small ∧
        (s₀.endings SessionEvent.isInquiry diagnosticsSample).filterMap CallEnd.diagnostics? =
          [{}, { workerState := some .running }, { workerState := some .running, iterations := 1 },
            { workerState := some .exited, iterations := 1 }] ∧
        s₀.MonotoneDiagnostics diagnosticsSample := by
  have timely : ∀ event ∈ diagnosticsSample, event.Timely {} := by decide
  refine ⟨_, rfl, timely, ?small, by decide,
    @monotoneDiagnostics_run Scripted Scripted.full {} _ _ rfl _ timely ?small⟩
  rintro c ⟨⟩ count
  cases count <;> decide

end Session

end AudioCapture
