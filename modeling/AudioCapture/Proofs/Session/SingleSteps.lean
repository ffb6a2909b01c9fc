import AudioCapture.Proofs.Capture.ThreadControl
import AudioCapture.Proofs.Session.Lifecycle

/-!
# Single steps of a session

One event of a session can be many steps: closing asks the thread to stop, then waits while anything
may happen beside it, and lets the thread go in the end. Here a run is taken apart into the single
steps. What each of them keeps, every run keeps (`singleStep_induction`).

* `AsideStep` — all that can happen beside the owner of a session in one step;
* `SingleStep` — all that can happen to a session in one step.
-/

namespace AudioCapture

namespace Session

/-! ## Beside the owner -/

section AsideSteps

variable {σ : Type} {s t : Session σ}

/-- All that can happen beside the thread that owns a session, in one step. -/
inductive AsideStep (s : Session σ) : Session σ → Prop
  | still : AsideStep s s
  | thread (c : Capture) (event : CaptureEvent) : s.capture = some c →
      event.isThreads s.gateOpen = true → AsideStep s (s.follow (c.step event))
  /-- The read that the thread is in comes back. -/
  | returned (c : Capture) (read : DeviceRead) : s.capture = some c → s.pendingRead = some read →
      AsideStep s ({ s with pendingRead := none }.follow (c.step (.returned read)))
  | consumer (c : Capture) (event : CaptureEvent) : s.capture = some c →
      event.isConsumers = true → AsideStep s { s with capture := some (c.step event).1 }
  | left : AsideStep s { s with holdsReader := false }
  | released : AsideStep s s.release

/-- What a session makes of a step of its transport. -/
theorem follow_eq (s : Session σ) (done : Capture × CaptureReply) :
    ∃ device pendingRead, s.follow done = { s with
        capture := some done.1
        requests := s.requests ++ done.2.requested.toList
        threadLog := s.threadLog ++ done.2.notices
        device
        pendingRead } ∧
      (done.2.offered = none → device = s.device) := by
  unfold follow
  dsimp only
  split
  · exact ⟨s.device, s.pendingRead, rfl, fun _ => rfl⟩
  · rename_i begins
    exact ⟨_, _, rfl, fun none => absurd (none.symm.trans begins) nofun⟩

theorem advance_asideStep (s : Session σ) (event : ThreadEvent) :
    s.AsideStep (s.advance event) := by
  cases here : s.capture with
  | none =>
    have same : s.advance event = s := by simp only [advance, here]
    rw [same]
    exact .still
  | some c =>
    cases event with
    | proceed =>
      simp only [advance, here]
      exact .thread c .proceed here rfl
    | expire =>
      simp only [advance, here]
      exact .thread c .expire here rfl
    | comeBack =>
      cases pending : s.pendingRead with
      | none =>
        simp only [advance, here, pending]
        exact .still
      | some read =>
        simp only [advance, here, pending]
        split
        · exact .still
        · exact .returned c read here pending
    | letGo =>
      simp only [advance, here]
      split
      · rename_i gate
        exact .thread c .letGo here gate
      · exact .still

theorem consume_asideStep (s : Session σ) (event : ConsumerEvent) :
    s.AsideStep (s.consume event) := by
  unfold consume
  split
  · rename_i c held here
    cases event with
    | requestSpace => exact .consumer c (.wake .spaceReady) here rfl
    | takeData => exact .consumer c (.take .dataReady) here rfl
    | drain most => exact .consumer c (.drain most) here rfl
    | nextRecord => exact .consumer c .nextRecord here rfl
    | leave => exact .left
  · exact .still

theorem happen_asideStep (s : Session σ) (event : AsideEvent) : s.AsideStep (s.happen event) := by
  cases event with
  | thread event => exact s.advance_asideStep event
  | consumer event => exact s.consume_asideStep event
  | release => exact .released

variable {Kept : Session σ → Prop}

theorem happenAll_induction (kept : ∀ {s t : Session σ}, s.AsideStep t → Kept s → Kept t)
    (start : Kept s) (events : List AsideEvent) : Kept (s.happenAll events) := by
  induction events generalizing s with
  | nil => exact start
  | cons event events ih => exact ih (kept (s.happen_asideStep event) start)

theorem settleWithin_induction (kept : ∀ {s t : Session σ}, s.AsideStep t → Kept s → Kept t)
    (start : Kept s) (steps : Nat) : Kept (s.settleWithin steps) := by
  induction steps generalizing s with
  | zero => exact start
  | succ steps ih =>
    unfold settleWithin
    split
    · exact start
    · exact ih (kept (s.advance_asideStep _) start)

theorem outlast_induction (kept : ∀ {s t : Session σ}, s.AsideStep t → Kept s → Kept t)
    (start : Kept s) : Kept s.outlast := by
  have settled : Kept s.settle := settleWithin_induction kept start settlingSteps
  have expired : Kept (s.settle.advance .expire) :=
    kept (s.settle.advance_asideStep .expire) settled
  exact settleWithin_induction kept expired settlingSteps

end AsideSteps

/-! ## All of it -/

section SingleSteps

variable {σ : Type} {inner : AudioSource σ} {s t : Session (Logged σ)}

/-- All that can happen to a session in one step. -/
inductive SingleStep (s : Session (Logged σ)) : Session (Logged σ) → Prop
  | passed {t : Session (Logged σ)} (made : List DeviceCall) : s.Passed t made → SingleStep s t
  | aside {t : Session (Logged σ)} : s.AsideStep t → SingleStep s t
  | equipped (requester : Requester) : SingleStep s { s with requester }
  | ran : s.state = .prepared → s.thread?.any (fun c => decide (c.state = .running)) = true →
      SingleStep s ({ s with state := .running }.note .sessionRunning)
  | prepared (size count : Nat) (priority : ThreadPriority) : s.state = .idle →
      s.closed = false → SingleStep s ({ s with
        state := .prepared
        holdsTransport := true
        holdsReader := true
        capture := some (.fresh size count priority s.requester) }.note
          (.prepared count size priority))
  /-- Closing, when there is no thread to wait for. -/
  | closedAtOnce : s.closed = false → s.thread? = none →
      SingleStep s ({ s with closed := true }.endClose none)
  /-- The first half of closing. -/
  | parted (c : Capture) : s.closed = false → s.thread? = some c → SingleStep s (s.parted c)
  /-- The second half of closing. -/
  | letGo (c : Capture) (timeout : Duration) : s.closed = true → s.holdsTransport = false →
      s.capture = some c → SingleStep s (s.endClose (some timeout))

variable {Kept : Session (Logged σ) → Prop}

theorem closeDuring_induction
    (kept : ∀ {s t : Session (Logged σ)}, s.SingleStep t → Kept s → Kept t) (start : Kept s)
    (now : Duration) {meanwhile : Session (Logged σ) → Session (Logged σ)}
    (keeps : ∀ t, Kept t → Kept (meanwhile t))
    (beside : ∀ c, ∃ made, (s.parted c).Beside (meanwhile (s.parted c)) made) :
    Kept (s.closeDuring now meanwhile).2 := by
  cases closed : s.closed with
  | true =>
    rw [closeDuring_of_closed closed]
    exact start
  | false =>
    cases thread : s.thread? with
    | none =>
      rw [closeDuring_of_none closed thread]
      exact kept (.closedAtOnce closed thread) start
    | some c =>
      have parted : Kept (s.parted c) := kept (.parted c closed thread) start
      cases time : joinTime now s.config with
      | error breakdown =>
        rw [closeDuring_of_error closed thread time]
        exact parted
      | ok timeout =>
        rw [closeDuring_of_ok closed thread time]
        obtain ⟨made, beside⟩ := beside c
        obtain ⟨d, here⟩ := beside.thread
        have side := beside.sameSide
        exact kept (.letGo d timeout side.closed side.holdsTransport here) (keeps _ parted)

theorem setup_induction (kept : ∀ {s t : Session (Logged σ)}, s.SingleStep t → Kept s → Kept t)
    (sound : s.Sound) (start : Kept s) (host : Host) (size count : UInt32)
    (priority : ThreadPriority) : Kept (s.perform (.setup host size count priority)).2 := by
  show Kept (s.control (setup host size count priority) fun _ => .done).2
  rw [control_snd]
  have ends := s.setup_cases host size count priority
  generalize (setup host size count priority).run.run s = done at ends
  cases ends with
  | closed held => exact start
  | repeated held twice => exact kept (.passed [] (.logged s [_])) start
  | refused why notices held twice poor => exact kept (.passed [] (.logged s notices)) start
  | unstarted why notice held idle poor =>
    -- the session goes back to the state that it was in
    have logged : Kept { s with log := s.log ++ [notice] } := kept (.passed [] (.logged s _)) start
    show Kept { s with state := .idle, log := s.log ++ [notice] }
    rw [← (sound.idle held idle).1]
    exact logged
  | done held idle affords =>
    obtain ⟨state, unclosed⟩ := sound.idle held idle
    exact kept (.prepared size.toNat count.toNat priority state unclosed) start

theorem step_induction (kept : ∀ {s t : Session (Logged σ)}, s.SingleStep t → Kept s → Kept t)
    (wired : s.source = Logged.source inner) (sound : s.Sound) (start : Kept s)
    (event : SessionEvent) : Kept (s.step event) := by
  have keptAside : ∀ {s t : Session (Logged σ)}, s.AsideStep t → Kept s → Kept t :=
    fun aside start => kept (.aside aside) start
  cases event with
  | equip requester => exact kept (.equipped requester) start
  | aside event => exact keptAside (s.happen_asideStep event) start
  | close now meanwhile =>
    exact closeDuring_induction kept start now
      (fun t start => happenAll_induction keptAside start meanwhile)
      fun c => happenAll_beside (s := s.parted c) wired meanwhile
  | call call =>
    show Kept (s.perform call).2
    by_cases plain : isPassedOn call = true
    · obtain ⟨made, passed⟩ := perform_passed wired plain
      exact kept (.passed made passed) start
    cases call with
    | setup host size count priority =>
      exact setup_induction kept sound start host size count priority
    | state =>
      show Kept s.lookAtState.2
      unfold lookAtState
      split
      · rename_i seen
        rw [Bool.and_eq_true, decide_eq_true_iff] at seen
        exact kept (.ran seen.1 seen.2) start
      · exact start
    | close =>
      exact closeDuring_induction kept start closingTime
        (fun t start => outlast_induction keptAside start)
        fun c => outlast_beside (s := s.parted c) wired
    | _ => exact absurd rfl plain

/-- A closing event closes the session at some time, while some steps beside its owner happen. -/
theorem closing_cases (s : Session (Logged σ)) (wired : s.source = Logged.source inner)
    {event : SessionEvent} (closing : event.isClosing = true) :
    ∃ now meanwhile, event.closesAt? = some now ∧
      (s.reply event).ending = some (s.closeDuring now meanwhile).1 ∧
      s.step event = (s.closeDuring now meanwhile).2 ∧
      (∀ Kept : Session (Logged σ) → Prop,
        (∀ {s t : Session (Logged σ)}, s.AsideStep t → Kept s → Kept t) →
          ∀ t, Kept t → Kept (meanwhile t)) ∧
      ∀ c, ∃ made, (s.parted c).Beside (meanwhile (s.parted c)) made := by
  cases event with
  | close now meanwhile =>
    exact ⟨now, fun next => next.happenAll meanwhile, rfl, rfl, rfl,
      fun Kept kept t start => happenAll_induction kept start meanwhile,
      fun c => happenAll_beside (s := s.parted c) wired meanwhile⟩
  | call call =>
    cases call with
    | close =>
      exact ⟨closingTime, outlast, rfl, rfl, rfl,
        fun Kept kept t start => outlast_induction kept start,
        fun c => outlast_beside (s := s.parted c) wired⟩
    | _ => cases closing
  | _ => cases closing

/-- What every single step keeps, every run keeps. -/
theorem singleStep_induction (Kept : Session (Logged σ) → Prop)
    (kept : ∀ {s t : Session (Logged σ)}, s.SingleStep t → Kept s → Kept t)
    (wired : s.source = Logged.source inner) (sound : s.Sound) (start : Kept s)
    (events : List SessionEvent) : Kept (s.run events) := by
  induction events generalizing s with
  | nil => exact start
  | cons event events ih =>
    have move : s.Move (fun _ => True) (s.step event) := step_move wired event fun _ _ => trivial
    exact ih (move.equipment.2.trans wired) (sound.move move)
      (step_induction kept wired sound start event)

end SingleSteps

end Session

end AudioCapture
