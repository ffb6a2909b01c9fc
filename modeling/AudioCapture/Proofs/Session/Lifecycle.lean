import AudioCapture.Proofs.Session.Teardown

/-!
# The life of a session

A session whose closing never breaks down goes through its states in order, is set up at most once
and closed at most once (`forwardLifecycle_run`). The invariant is `Orderly`: what is said of every
session in `Sound`, and that a closed one has let go of its device and is closed in state as well.

* `Orderly.move` — the invariant;
* `Orderly.rank_le` — the state never moves backwards;
* `Orderly.setupEnds` — how setting up ends, by the state of the session;
* `Orderly.closings`, `Orderly.looks` — how the calls of one kind end in a whole run.
-/

namespace AudioCapture

/-! ## Kinds of events -/

namespace SessionEvent

def isSetup : SessionEvent → Bool
  | .call (.setup ..) => true
  | _ => false

/-- Whether an event asks for the state. -/
def isLook : SessionEvent → Bool
  | .call .state => true
  | _ => false

def isClosing (event : SessionEvent) : Bool := event.closesAt?.isSome

/-- If the event closes the session, the end of the wait for its thread can be told. -/
def Timely (config : SessionConfig) (event : SessionEvent) : Prop :=
  ∀ now ∈ event.closesAt?, config.JoinFits now

instance (config : SessionConfig) (event : SessionEvent) : Decidable (event.Timely config) :=
  inferInstanceAs (Decidable (∀ now ∈ event.closesAt?, config.JoinFits now))

end SessionEvent

/-- The state that a call answers with. -/
def CallEnd.state? : CallEnd → Option SessionState
  | .answered (.state value) => some value
  | _ => none

theorem SessionState.rank_le_closed (state : SessionState) : state.rank ≤ closed.rank := by
  cases state <;> decide

theorem SessionState.eq_idle_of_rank_le {state : SessionState} (h : state.rank ≤ idle.rank) :
    state = idle := by
  cases state with
  | idle => rfl
  | prepared | running | closed => exact absurd h (by decide)

namespace Session

variable {σ : Type} {inner : AudioSource σ} {config : SessionConfig}
  {s t : Session (Logged σ)} {times : Duration → Prop}

/-- How the events of one kind end in a run, in order. -/
def endings (s : Session σ) (kind : SessionEvent → Bool) : List SessionEvent → List CallEnd
  | [] => []
  | event :: events =>
      (if kind event then (s.reply event).ending.toList else []) ++
        (s.step event).endings kind events

theorem endings_cons_of_not (s : Session σ) {kind : SessionEvent → Bool} {event : SessionEvent}
    (other : kind event = false) (events : List SessionEvent) :
    s.endings kind (event :: events) = (s.step event).endings kind events := by
  simp [endings, other]

theorem endings_cons (s : Session σ) {kind : SessionEvent → Bool} {event : SessionEvent}
    {ending : CallEnd} (same : kind event = true) (ends : (s.reply event).ending = some ending)
    (events : List SessionEvent) :
    s.endings kind (event :: events) = ending :: (s.step event).endings kind events := by
  simp [endings, same, ends]

/-! ## The invariant -/

structure Orderly (inner : AudioSource σ) (config : SessionConfig) (s : Session (Logged σ)) :
    Prop where
  sound : s.Sound
  configured : s.config = config
  wired : s.source = Logged.source inner
  ended : s.closed = true → s.holdsSource = false ∧ s.state = .closed

theorem Orderly.unclosed_of_held (h : s.Orderly inner config) (held : s.holdsSource = true) :
    s.closed = false := by
  cases closed : s.closed with
  | false => rfl
  | true => exact absurd (held.symm.trans (h.ended closed).1) nofun

theorem Orderly.holdsTransport (h : s.Orderly inner config) :
    s.holdsTransport = s.state.hasTransport := by
  cases closed : s.closed with
  | false => exact (h.sound.state closed).symm
  | true =>
    rw [h.sound.parted closed, (h.ended closed).2]
    rfl

theorem Orderly.state_eq_closed_iff (h : s.Orderly inner config) :
    s.state = .closed ↔ s.closed = true := by
  refine ⟨?_, fun closed => (h.ended closed).2⟩
  intro state
  cases closed : s.closed with
  | true => rfl
  | false => exact absurd state (h.sound.unended (h.sound.held closed))

theorem Orderly.move (move : s.Move config.JoinFits t) (h : s.Orderly inner config) :
    t.Orderly inner config := by
  have equipment := move.equipment
  refine ⟨h.sound.move move, equipment.1.trans h.configured, equipment.2.trans h.wired, ?_⟩
  cases move with
  | passed made passed =>
    rw [passed.sameSide.closed, passed.sameSide.holdsSource, passed.sameSide.state]
    exact h.ended
  | beside made beside =>
    rw [beside.sameSide.closed, beside.sameSide.holdsSource, beside.sameSide.state]
    exact h.ended
  | equipped requester => exact h.ended
  | ran state seen =>
    intro closed
    exact absurd (state.symm.trans (h.ended closed).2) nofun
  | unstarted notice held idle | prepared _ _ _ held idle =>
    intro closed
    exact absurd ((h.unclosed_of_held held).symm.trans closed) nofun
  | closedAtOnce now timely unclosed idle =>
    rw [endClose_none]
    exact fun _ => ⟨rfl, rfl⟩
  | brokeDown c now breakdown timely unclosed thread time =>
    rw [h.configured, joinTime_of_fits timely] at time
    cases time
  | @closed t c now timeout made timely unclosed thread time beside =>
    obtain ⟨d, here⟩ := beside.thread
    rw [endClose_some here]
    exact fun _ => ⟨rfl, rfl⟩

theorem Orderly.step (h : s.Orderly inner config) {event : SessionEvent}
    (timely : event.Timely config) : (s.step event).Orderly inner config :=
  h.move (step_move h.wired event timely)

theorem orderly_create {device : σ}
    (created : create (Logged.source inner) { device } config = .ok s) :
    s.Orderly inner config ∧ s.state = .idle ∧ s.closed = false := by
  obtain ⟨configured, wired⟩ := equipment_create created
  have sound := sound_create created rfl
  unfold create at created
  split at created
  · cases created
  · cases created
    exact ⟨⟨sound, configured, wired, nofun⟩, rfl, rfl⟩

theorem Orderly.run (h : s.Orderly inner config) {events : List SessionEvent}
    (timely : ∀ event ∈ events, event.Timely config) : (s.run events).Orderly inner config :=
  run_induction (Orderly inner config) Orderly.move h.wired h events timely

/-! ## What moves keep -/

theorem Orderly.rank_le (h : s.Orderly inner config) (move : s.Move config.JoinFits t) :
    s.state.rank ≤ t.state.rank := by
  cases move with
  | passed made passed => exact Nat.le_of_eq (congrArg _ passed.sameSide.state.symm)
  | beside made beside => exact Nat.le_of_eq (congrArg _ beside.sameSide.state.symm)
  | equipped | brokeDown => exact Nat.le_refl _
  | ran state seen =>
    rw [state]
    exact Nat.le_succ 1
  | unstarted notice held idle | prepared _ _ _ held idle =>
    rw [(h.sound.idle held idle).1]
    exact Nat.zero_le _
  | closedAtOnce now timely unclosed idle =>
    rw [endClose_none]
    exact s.state.rank_le_closed
  | @closed t c now timeout made timely unclosed thread time beside =>
    obtain ⟨d, here⟩ := beside.thread
    rw [endClose_some here]
    exact s.state.rank_le_closed

theorem Move.closed_of_closed (move : s.Move times t) (closed : s.closed = true) :
    t.closed = true := by
  cases move with
  | passed made passed => exact passed.sameSide.closed.trans closed
  | beside made beside => exact beside.sameSide.closed.trans closed
  | equipped | ran | unstarted | prepared => exact closed
  | closedAtOnce now timely unclosed | brokeDown c now breakdown timely unclosed
  | closed c now timeout made timely unclosed =>
    exact absurd (unclosed.symm.trans closed) nofun

/-- Nothing but closing closes a session. -/
theorem Move.unclosed (move : s.Move (fun _ => False) t) (unclosed : s.closed = false) :
    t.closed = false := by
  cases move with
  | passed made passed => exact passed.sameSide.closed.trans unclosed
  | beside made beside => exact beside.sameSide.closed.trans unclosed
  | equipped | ran | unstarted | prepared => exact unclosed
  | closedAtOnce now timely | brokeDown c now breakdown timely
  | closed c now timeout made timely => exact timely.elim

/-- A session that comes to be running has a thread that runs. -/
theorem Move.running (move : s.Move times t) (running : t.state = .running) :
    s.state = .running ∨ ∃ c, s.thread? = some c ∧ c.state = .running := by
  cases move with
  | passed made passed => exact .inl (passed.sameSide.state.symm.trans running)
  | beside made beside => exact .inl (beside.sameSide.state.symm.trans running)
  | equipped | brokeDown => exact .inl running
  | ran state seen =>
    obtain ⟨c, thread, runs⟩ := Option.any_eq_true _ _ |>.1 seen
    exact .inr ⟨c, thread, of_decide_eq_true runs⟩
  | unstarted | prepared => cases running
  | closedAtOnce now timely unclosed idle =>
    rw [endClose_none] at running
    cases running
  | @closed t c now timeout made timely unclosed thread time beside =>
    obtain ⟨d, here⟩ := beside.thread
    rw [endClose_some here] at running
    cases running

/-! ## Setting up -/

/-- How setting up ends, by the state of the session, the sizes and what the system grants. -/
structure SetupEnds (s : Session σ) (host : Host) (size count : UInt32) (ending : CallEnd) :
    Prop where
  done : ending = .answered .done ↔ s.state = .idle ∧ s.config.Affords host size count
  closed : s.closed = true → ending = .failed .closed
  repeated : s.holdsTransport = true → ending = .failed .alreadyPrepared
  refused : s.closed = false → s.holdsTransport = false →
    ending = .answered .done ∨ ∃ why, ending = .failed (.invalidArguments why)

theorem Orderly.setupEnds (h : s.Orderly inner config) (host : Host) (size count : UInt32)
    (priority : ThreadPriority) :
    s.SetupEnds host size count (s.perform (.setup host size count priority)).1 := by
  show s.SetupEnds host size count (s.control (setup host size count priority) fun _ => .done).1
  have ends := s.setup_cases host size count priority
  unfold control
  generalize (setup host size count priority).run.run s = done at ends
  -- a session that refuses for want of a grant is neither closed nor set up
  have refused : ∀ {why : String}, s.holdsSource = true → s.state.hasTransport = false →
      ¬ s.config.Affords host size count →
      s.SetupEnds host size count (.failed (.invalidArguments why)) := by
    intro why held idle poor
    refine ⟨⟨nofun, fun able => absurd able.2 poor⟩, ?_, ?_, fun _ _ => .inr ⟨why, rfl⟩⟩
    · intro closed
      exact absurd ((h.unclosed_of_held held).symm.trans closed) nofun
    · intro holds
      exact absurd (idle.symm.trans (h.holdsTransport.symm.trans holds)) nofun
  cases ends with
  | closed gone =>
    have closed : s.closed = true := by
      cases closed : s.closed with
      | true => rfl
      | false => exact absurd (gone.symm.trans (h.sound.held closed)) nofun
    refine ⟨⟨nofun, fun able => ?_⟩, fun _ => rfl, fun holds => ?_, fun unclosed => ?_⟩
    · exact absurd (able.1.symm.trans (h.ended closed).2) nofun
    · exact absurd ((h.sound.parted closed).symm.trans holds) nofun
    · exact absurd (unclosed.symm.trans closed) nofun
  | repeated held twice =>
    have holds := h.holdsTransport.trans twice
    refine ⟨⟨nofun, fun able => ?_⟩, fun closed => ?_, fun _ => rfl, fun _ apart => ?_⟩
    · rw [able.1] at twice
      cases twice
    · exact absurd ((h.unclosed_of_held held).symm.trans closed) nofun
    · exact absurd (apart.symm.trans holds) nofun
  | refused why notices held idle poor => exact refused held idle poor
  | unstarted why notice held idle poor => exact refused held idle poor
  | done held idle able =>
    have state := (h.sound.idle held idle).1
    refine ⟨⟨fun _ => ⟨state, able⟩, fun _ => rfl⟩, fun closed => ?_, fun holds => ?_,
      fun _ _ => .inl rfl⟩
    · exact absurd ((h.unclosed_of_held held).symm.trans closed) nofun
    · exact absurd (idle.symm.trans (h.holdsTransport.symm.trans holds)) nofun

theorem state_of_setup_done {host : Host} {size count : UInt32} {priority : ThreadPriority}
    (done : (s.perform (.setup host size count priority)).1 = .answered .done) :
    (s.perform (.setup host size count priority)).2.state = .prepared := by
  change (s.control (setup host size count priority) fun _ => .done).1 = _ at done
  show (s.control (setup host size count priority) fun _ => .done).2.state = _
  have ends := s.setup_cases host size count priority
  unfold control at done ⊢
  generalize (setup host size count priority).run.run s = ended at ends done
  cases ends with
  | done => rfl
  | closed | repeated | refused | unstarted => cases done

/-- At most one setup succeeds, and none in a session that was set up or closed. -/
theorem Orderly.setups_le (h : s.Orderly inner config) {events : List SessionEvent}
    (timely : ∀ event ∈ events, event.Timely config) :
    (s.endings SessionEvent.isSetup events).count (.answered .done) ≤
      if s.state = .idle then 1 else 0 := by
  induction events generalizing s with
  | nil => exact Nat.zero_le _
  | cons event events ih =>
    have soon := timely event List.mem_cons_self
    have rest := ih (h.step soon) fun later member => timely later (List.mem_cons_of_mem _ member)
    have advance := h.rank_le (step_move h.wired event soon)
    -- a session that is idle after the event was idle before it
    have idle : (s.step event).state = .idle → s.state = .idle := by
      intro after
      rw [after] at advance
      exact SessionState.eq_idle_of_rank_le advance
    have later : (if (s.step event).state = .idle then 1 else 0) ≤
        if s.state = .idle then 1 else 0 := by
      by_cases after : (s.step event).state = .idle
      · simp [after, idle after]
      · simp [after]
    by_cases setup : event.isSetup = true
    · cases event with
      | call call =>
        cases call with
        | setup host size count priority =>
          rw [endings_cons s setup rfl, List.count_cons]
          by_cases done : (s.perform (.setup host size count priority)).1 = .answered .done
          · have before := ((h.setupEnds host size count priority).done.1 done).1
            have after : (s.step (.call (.setup host size count priority))).state = .prepared :=
              state_of_setup_done done
            rw [after] at rest
            simp only [done, before, beq_self_eq_true, if_true]
            exact Nat.succ_le_succ rest
          · simp only [beq_iff_eq, done, if_false]
            exact Nat.le_trans rest later
        | _ => cases setup
      | _ => cases setup
    · rw [endings_cons_of_not s (by simpa using setup)]
      exact Nat.le_trans rest later

/-! ## Closing -/

theorem Sound.tornDown_of_fits (h : s.Sound) (wired : s.source = Logged.source inner)
    (unclosed : s.closed = false) {now : Duration} (fits : s.config.JoinFits now)
    {meanwhile : Session (Logged σ) → Session (Logged σ)}
    (beside : ∀ c, ∃ made, (s.parted c).Beside (meanwhile (s.parted c)) made) :
    s.TornDown (s.closeDuring now meanwhile) := by
  cases thread : s.thread? with
  | none => exact h.tornDown_of_none wired unclosed thread
  | some c => exact h.tornDown_of_ok wired unclosed thread (joinTime_of_fits fits) (beside c)

/-- A closing event closes a session that is not closed, and is refused by one that is. -/
theorem Orderly.closing (h : s.Orderly inner config) {event : SessionEvent}
    (timely : event.Timely config) (closing : event.isClosing = true) :
    (s.reply event).ending =
        some (if s.closed = true then .failed .closed else .answered .done) ∧
      (s.step event).closed = true := by
  have ends : ∀ (now : Duration) (meanwhile : Session (Logged σ) → Session (Logged σ)),
      config.JoinFits now →
      (∀ c, ∃ made, (s.parted c).Beside (meanwhile (s.parted c)) made) →
      (s.closeDuring now meanwhile).1 =
          (if s.closed = true then .failed .closed else .answered .done) ∧
        (s.closeDuring now meanwhile).2.closed = true := by
    intro now meanwhile fits beside
    cases closed : s.closed with
    | true =>
      rw [closeDuring_of_closed closed]
      exact ⟨rfl, closed⟩
    | false =>
      have torn := h.sound.tornDown_of_fits h.wired closed (h.configured ▸ fits) beside
      exact ⟨torn.answered, torn.closed⟩
  cases event with
  | close now meanwhile =>
    obtain ⟨ending, closed⟩ := ends now (fun next => next.happenAll meanwhile)
      (timely now rfl) fun c => happenAll_beside (s := s.parted c) h.wired meanwhile
    exact ⟨congrArg some ending, closed⟩
  | call call =>
    cases call with
    | close =>
      obtain ⟨ending, closed⟩ := ends closingTime outlast (timely closingTime rfl) fun c =>
        outlast_beside (s := s.parted c) h.wired
      exact ⟨congrArg some ending, closed⟩
    | _ => cases closing
  | _ => cases closing

/-- A session is closed by closing it, and stays so. -/
theorem Orderly.closed_step (h : s.Orderly inner config) {event : SessionEvent}
    (timely : event.Timely config) :
    (s.step event).closed = (s.closed || event.isClosing) := by
  have move := step_move h.wired event timely
  cases closing : event.isClosing with
  | true => rw [(h.closing timely closing).2, Bool.or_true]
  | false =>
    rw [Bool.or_false]
    cases closed : s.closed with
    | true => exact move.closed_of_closed closed
    | false =>
      have never : ∀ now ∈ event.closesAt?, False := by
        intro now member
        rw [SessionEvent.isClosing, Option.mem_def.1 member] at closing
        cases closing
      exact (step_move h.wired event never).unclosed closed

theorem Orderly.closed_run (h : s.Orderly inner config) {events : List SessionEvent}
    (timely : ∀ event ∈ events, event.Timely config) :
    (s.run events).closed = (s.closed || events.any SessionEvent.isClosing) := by
  induction events generalizing s with
  | nil => exact (Bool.or_false _).symm
  | cons event events ih =>
    have soon := timely event List.mem_cons_self
    rw [run_cons, ih (h.step soon) fun later member => timely later (List.mem_cons_of_mem _ member),
      h.closed_step soon, List.any_cons, Bool.or_assoc]

theorem Orderly.closings_of_closed (h : s.Orderly inner config) {events : List SessionEvent}
    (timely : ∀ event ∈ events, event.Timely config) (closed : s.closed = true) :
    ∃ others, s.endings SessionEvent.isClosing events =
      List.replicate others (.failed .closed) := by
  induction events generalizing s with
  | nil => exact ⟨0, rfl⟩
  | cons event events ih =>
    have soon := timely event List.mem_cons_self
    have after : (s.step event).closed = true := by rw [h.closed_step soon, closed, Bool.true_or]
    obtain ⟨others, rest⟩ := ih (h.step soon)
      (fun later member => timely later (List.mem_cons_of_mem _ member)) after
    cases closing : event.isClosing with
    | true =>
      have ending := (h.closing soon closing).1
      rw [if_pos closed] at ending
      exact ⟨others + 1, by rw [endings_cons s closing ending, rest, List.replicate_succ]⟩
    | false => exact ⟨others, by rw [endings_cons_of_not s closing, rest]⟩

/-- The first closing works, and all others are refused. -/
theorem Orderly.closings (h : s.Orderly inner config) {events : List SessionEvent}
    (timely : ∀ event ∈ events, event.Timely config) (unclosed : s.closed = false) :
    s.endings SessionEvent.isClosing events = [] ∨
      ∃ others, s.endings SessionEvent.isClosing events =
        .answered .done :: List.replicate others (.failed .closed) := by
  induction events generalizing s with
  | nil => exact .inl rfl
  | cons event events ih =>
    have soon := timely event List.mem_cons_self
    have later : ∀ event ∈ events, event.Timely config :=
      fun later member => timely later (List.mem_cons_of_mem _ member)
    cases closing : event.isClosing with
    | true =>
      obtain ⟨ending, closed⟩ := h.closing soon closing
      rw [unclosed, if_neg Bool.false_ne_true] at ending
      obtain ⟨others, rest⟩ := (h.step soon).closings_of_closed later closed
      exact .inr ⟨others, by rw [endings_cons s closing ending, rest]⟩
    | false =>
      rw [endings_cons_of_not s closing]
      refine ih (h.step soon) later ?_
      rw [h.closed_step soon, unclosed, closing]
      rfl

/-! ## Looking -/

theorem lookAtState_fst (s : Session σ) : s.lookAtState.1 = s.lookAtState.2.state := by
  unfold lookAtState
  split <;> rfl

/-- The states that are seen in a run never move backwards. -/
theorem Orderly.looks (h : s.Orderly inner config) {events : List SessionEvent}
    (timely : ∀ event ∈ events, event.Timely config) :
    let seen := (s.endings SessionEvent.isLook events).filterMap CallEnd.state?
    seen.Pairwise (fun first second => first.rank ≤ second.rank) ∧
      ∀ state ∈ seen, s.state.rank ≤ state.rank := by
  induction events generalizing s with
  | nil => exact ⟨.nil, nofun⟩
  | cons event events ih =>
    have soon := timely event List.mem_cons_self
    obtain ⟨ordered, above⟩ := ih (h.step soon)
      fun later member => timely later (List.mem_cons_of_mem _ member)
    have advance := h.rank_le (step_move h.wired event soon)
    have later : ∀ state ∈ ((s.step event).endings SessionEvent.isLook events).filterMap
        CallEnd.state?, s.state.rank ≤ state.rank :=
      fun state member => Nat.le_trans advance (above state member)
    by_cases look : event.isLook = true
    · cases event with
      | call call =>
        cases call with
        | state =>
          -- what is seen is the state that the look leaves
          have seen : (s.reply (.call .state)).ending =
              some (.answered (.state (s.step (.call .state)).state)) :=
            congrArg (fun state => some (CallEnd.answered (.state state))) s.lookAtState_fst
          rw [endings_cons s look seen]
          refine ⟨List.pairwise_cons.2 ⟨above, ordered⟩, ?_⟩
          intro state member
          rcases List.mem_cons.1 member with rfl | member
          · exact advance
          · exact later state member
        | _ => cases look
      | _ => cases look
    · rw [endings_cons_of_not s (by simpa using look)]
      exact ⟨ordered, later⟩

/-- A session that is seen to run has a thread that ran at that time or before. -/
theorem ran_before (wired : s.source = Logged.source inner) (events : List SessionEvent)
    (seen : (s.run events).lookAtState.1 = .running) :
    s.state = .running ∨ ∃ before, before <+: events ∧
      ∃ c, (s.run before).thread? = some c ∧ c.state = .running := by
  induction events generalizing s with
  | nil =>
    have always : ∀ now ∈ (SessionEvent.call .state).closesAt?, True := fun _ _ => trivial
    rw [lookAtState_fst] at seen
    rcases (step_move wired (.call .state) always).running seen with before | ⟨c, thread, runs⟩
    · exact .inl before
    · exact .inr ⟨[], List.nil_prefix, c, thread, runs⟩
  | cons event events ih =>
    have always : ∀ now ∈ event.closesAt?, True := fun _ _ => trivial
    have move := step_move wired event always
    rcases ih (move.equipment.2.trans wired) seen with after | ⟨before, initial, thread⟩
    · rcases move.running after with running | thread
      · exact .inl running
      · exact .inr ⟨[], List.nil_prefix, thread⟩
    · exact .inr ⟨event :: before, List.cons_prefix_cons.2 ⟨rfl, initial⟩, thread⟩

/-! ## All of it -/

/-- What a run from a new session shows of its states: they go forward, one setup and one closing
work. -/
structure ForwardLifecycle (s₀ : Session σ) (events : List SessionEvent) : Prop where
  transport : (s₀.run events).holdsTransport = (s₀.run events).state.hasTransport
  closed : (s₀.run events).state = .closed ↔ (s₀.run events).closed = true
  setup : ∀ host size count priority, (s₀.run events).SetupEnds host size count
    ((s₀.run events).perform (.setup host size count priority)).1
  /-- At most one setup succeeds. -/
  setups : (s₀.endings SessionEvent.isSetup events).count (.answered .done) ≤ 1
  /-- Exactly the first closing works. -/
  closings : s₀.endings SessionEvent.isClosing events = [] ∨
    ∃ others, s₀.endings SessionEvent.isClosing events =
      .answered .done :: List.replicate others (.failed .closed)
  /-- The states that are seen never move backwards. -/
  looks : ((s₀.endings SessionEvent.isLook events).filterMap CallEnd.state?).Pairwise
    fun first second => first.rank ≤ second.rank
  /-- A session is only seen to run when its thread has come to run. -/
  ran : ((s₀.run events).perform .state).1 = .answered (.state .running) →
    ∃ before, before <+: events ∧ ∃ c, (s₀.run before).thread? = some c ∧ c.state = .running

/-- **Life of a session**: whatever is asked of a session, and whatever its thread, its consumer and
the system do meanwhile, if its closings do not break down. -/
theorem forwardLifecycle_run {device : σ} {s₀ : Session (Logged σ)}
    (created : create (Logged.source inner) { device } config = .ok s₀)
    (events : List SessionEvent) (timely : ∀ event ∈ events, event.Timely config) :
    s₀.ForwardLifecycle events := by
  obtain ⟨new, idle, unclosed⟩ := orderly_create created
  have orderly := new.run timely
  refine ⟨orderly.holdsTransport, orderly.state_eq_closed_iff, orderly.setupEnds, ?_,
    new.closings timely unclosed, (new.looks timely).1, ?_⟩
  · have most := new.setups_le timely
    rwa [if_pos idle] at most
  · intro seen
    have runs : (s₀.run events).lookAtState.1 = .running := by
      injection seen with answer
      injection answer
    exact (ran_before new.wired events runs).resolve_left (by rw [idle]; exact nofun)

/-- A session whose thread is refused at first, that is then set up and seen to run, is not set up
again, and is closed twice. -/
def lifecycleSample : List SessionEvent :=
  [.call (.setup { startsThreads := false } 4 2 .normal), .call (.setup {} 4 2 .normal),
    .call .state, .aside (.thread .proceed), .aside (.thread .proceed), .call .state,
    .call (.setup {} 4 2 .normal), .call .close, .call .state, .close closingTime []]

theorem forwardLifecycle_sample :
    ∃ s₀ : Session (Logged Scripted),
      create (Logged.source Scripted.full) { device := {} } {} = .ok s₀ ∧
        (∀ event ∈ lifecycleSample, event.Timely {}) ∧
        (s₀.endings SessionEvent.isLook lifecycleSample).filterMap CallEnd.state? =
          [.prepared, .running, .closed] ∧
        s₀.ForwardLifecycle lifecycleSample :=
  ⟨_, rfl, by decide, by decide,
    @forwardLifecycle_run Scripted Scripted.full {} {} _ rfl _ (by decide)⟩

end Session

end AudioCapture
