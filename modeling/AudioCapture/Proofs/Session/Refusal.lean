import AudioCapture.Proofs.Session.Comparison
import AudioCapture.Proofs.Session.Teardown

/-!
# Setups that fail

A setup that fails leaves nothing behind but what it has logged (`setup_failed_indistinct`). The
session is the same but for its log by the ways in which setting up can end; and since nothing that
happens to a session depends on what was logged before, it cannot be told from the session that was
not asked at all, whatever follows (`Alike.indistinct`).

* `happenAll_relog`, `outlast_relog` — what happens beside the owner does not touch the log;
* `setup_alike`, `closeDuring_alike`, `perform_alike` — calls on sessions that differ in the log;
* `Alike.step`, `Alike.reply` — all that can happen to them.
-/

namespace AudioCapture

namespace Session

variable {σ α β : Type}

/-! ## Another log -/

/-- The session with another log. -/
def relog (s : Session σ) (log : List Notice) : Session σ := { s with log }

section Fields

variable (s : Session σ) (log : List Notice)

@[simp] theorem config_relog : (s.relog log).config = s.config := rfl

@[simp] theorem state_relog : (s.relog log).state = s.state := rfl

@[simp] theorem closed_relog : (s.relog log).closed = s.closed := rfl

@[simp] theorem holdsSource_relog : (s.relog log).holdsSource = s.holdsSource := rfl

@[simp] theorem capture_relog : (s.relog log).capture = s.capture := rfl

@[simp] theorem holdsReader_relog : (s.relog log).holdsReader = s.holdsReader := rfl

@[simp] theorem pendingRead_relog : (s.relog log).pendingRead = s.pendingRead := rfl

@[simp] theorem gateOpen_relog : (s.relog log).gateOpen = s.gateOpen := rfl

@[simp] theorem thread?_relog : (s.relog log).thread? = s.thread? := rfl

@[simp] theorem nextEvent?_relog : (s.relog log).nextEvent? = s.nextEvent? := rfl

end Fields

/-! ## Beside the owner -/

section Beside

variable (s : Session σ) (log : List Notice)

theorem follow_relog (stepped : Capture × CaptureReply) :
    (s.relog log).follow stepped = (s.follow stepped).relog log := by
  obtain ⟨capture, reply⟩ := stepped
  simp only [follow]
  cases reply.offered with
  | none => rfl
  | some free => rfl

theorem advance_relog (event : ThreadEvent) :
    (s.relog log).advance event = (s.advance event).relog log := by
  unfold advance
  rw [capture_relog, pendingRead_relog]
  cases s.capture with
  | none => rfl
  | some c =>
    cases event with
    | proceed => exact s.follow_relog log c.proceed
    | expire => exact s.follow_relog log c.expire
    | comeBack =>
      cases s.pendingRead with
      | none => rfl
      | some read =>
        cases held : read.held with
        | true => simp only [held, if_true]
        | false =>
          simp only [held, Bool.false_eq_true, if_false]
          exact follow_relog { s with pendingRead := none } log (c.returned read)
    | letGo =>
      dsimp only
      rw [gateOpen_relog]
      cases s.gateOpen with
      | true => exact s.follow_relog log c.letGo
      | false => rfl

theorem consume_relog (event : ConsumerEvent) :
    (s.relog log).consume event = (s.consume event).relog log := by
  unfold consume
  rw [holdsReader_relog, capture_relog]
  cases s.holdsReader with
  | false => rfl
  | true =>
    cases s.capture with
    | none => rfl
    | some c => cases event <;> rfl

theorem happen_relog (event : AsideEvent) :
    (s.relog log).happen event = (s.happen event).relog log := by
  cases event with
  | thread event => exact s.advance_relog log event
  | consumer event => exact s.consume_relog log event
  | release => rfl

theorem happenAll_relog (events : List AsideEvent) :
    (s.relog log).happenAll events = (s.happenAll events).relog log := by
  induction events generalizing s with
  | nil => rfl
  | cons event events ih =>
    show ((s.relog log).happen event).happenAll events = _
    rw [happen_relog]
    exact ih (s.happen event)

theorem seenAll_relog (events : List AsideEvent) :
    (s.relog log).seenAll events = s.seenAll events := by
  induction events generalizing s with
  | nil => rfl
  | cons event events ih =>
    have first : (s.relog log).seen event = s.seen event := rfl
    rw [seenAll, first, happen_relog, ih]
    rfl

theorem settleWithin_relog (steps : Nat) :
    (s.relog log).settleWithin steps = (s.settleWithin steps).relog log := by
  induction steps generalizing s with
  | zero => rfl
  | succ steps ih =>
    unfold settleWithin
    rw [nextEvent?_relog]
    cases s.nextEvent? with
    | none => rfl
    | some event =>
      show ((s.relog log).advance event).settleWithin steps = _
      rw [advance_relog]
      exact ih (s.advance event)

theorem outlast_relog : (s.relog log).outlast = s.outlast.relog log := by
  unfold outlast settle
  rw [settleWithin_relog, advance_relog, settleWithin_relog]

end Beside

/-! ## Calls -/

/-- The sessions differ in what has been logged at most. -/
def Alike (s t : Session σ) : Prop := ∃ log, t = s.relog log

section Calls

variable {s t : Session σ}

theorem Alike.refl (s : Session σ) : s.Alike s := ⟨s.log, rfl⟩

theorem Alike.relog (s : Session σ) (log : List Notice) : s.Alike (s.relog log) := ⟨log, rfl⟩

theorem blind_alike : Blind (Alike : Session σ → Session σ → Prop) where
  config := by rintro s t ⟨log, rfl⟩; rfl
  source := by rintro s t ⟨log, rfl⟩; rfl
  device := by rintro s t ⟨log, rfl⟩; rfl
  holdsSource := by rintro s t ⟨log, rfl⟩; rfl
  moved := by rintro s t ⟨log, rfl⟩ device; exact ⟨log, rfl⟩
  noted := by rintro s t ⟨log, rfl⟩ notice; exact ⟨_, rfl⟩

theorem setup_alike (alike : s.Alike t) (host : Host) (size count : UInt32)
    (priority : ThreadPriority) :
    EndsBoth Alike ((setup host size count priority).run.run s)
      ((setup host size count priority).run.run t) := by
  obtain ⟨log, rfl⟩ := alike
  show EndsBoth Alike (setup host size count priority s)
    (setup host size count priority (s.relog log))
  -- every look that decides how setting up ends is at something else than the log
  unfold setup
  dsimp only
  rw [holdsSource_relog, state_relog, config_relog]
  split
  · exact ⟨rfl, ⟨_, rfl⟩⟩
  split
  · exact ⟨rfl, ⟨_, rfl⟩⟩
  split
  · exact ⟨rfl, ⟨_, rfl⟩⟩
  split
  · exact ⟨rfl, ⟨_, rfl⟩⟩
  cases Queue.make .byte host (size.toNat * count.toNat) with
  | error fault => exact ⟨rfl, ⟨_, rfl⟩⟩
  | ok data =>
  cases Ring.make .outcome host 1 with
  | error fault => exact ⟨rfl, ⟨_, rfl⟩⟩
  | ok records =>
  cases bound : data.bind? with
  | none =>
    simp only [bound]
    exact ⟨rfl, ⟨_, rfl⟩⟩
  | some data =>
  simp only [bound]
  split
  · exact ⟨rfl, ⟨_, rfl⟩⟩
  · exact ⟨rfl, ⟨_, rfl⟩⟩

theorem releaseSource_relog (s : Session σ) (log : List Notice) :
    (s.relog log).releaseSource = s.releaseSource.relog log := by
  rw [releaseSource_eq, releaseSource_eq]
  rfl

theorem endClose_alike (alike : s.Alike t) (timeout? : Option Duration) :
    (s.endClose timeout?).Alike (t.endClose timeout?) := by
  -- the device is released after the thread was let go, whatever that has logged
  have released : ∀ (s : Session σ) (log : List Notice),
      (({ s with state := .closed }.releaseSource).note .sessionClosed).Alike
        (({ s.relog log with state := .closed }.releaseSource).note .sessionClosed) := by
    intro s log
    refine ⟨log ++ [.sessionClosed], ?_⟩
    show (releaseSource (relog { s with state := .closed } log)).note .sessionClosed = _
    rw [releaseSource_relog]
    rfl
  obtain ⟨log, rfl⟩ := alike
  unfold endClose
  rw [capture_relog]
  cases timeout? with
  | none => exact released s log
  | some timeout =>
    cases s.capture with
    | none => exact released s log
    | some c => exact released (s.letThreadGo timeout c) _

theorem beginClose_relog (s : Session σ) (log : List Notice) (now : Duration) :
    (s.relog log).beginClose now = ((s.beginClose now).1, (s.beginClose now).2.relog log) := by
  unfold beginClose
  rw [closed_relog, thread?_relog]
  cases s.closed with
  | true => rfl
  | false =>
    cases s.thread? with
    | none => rfl
    | some c => rfl

theorem beginClose_alike (alike : s.Alike t) (now : Duration) :
    EndsBoth Alike (s.beginClose now) (t.beginClose now) := by
  obtain ⟨log, rfl⟩ := alike
  rw [beginClose_relog]
  exact ⟨rfl, .relog _ log⟩

theorem closeDuring_alike (alike : s.Alike t) (now : Duration)
    (meanwhile : Session σ → Session σ)
    (silent : ∀ s log, meanwhile (s.relog log) = (meanwhile s).relog log) :
    EndsBoth Alike (s.closeDuring now meanwhile) (t.closeDuring now meanwhile) := by
  refine closeDuring_both (beginClose_alike alike now) ?_ id endClose_alike
  rintro s t ⟨log, rfl⟩
  rw [silent]
  exact .relog (meanwhile s) log

theorem perform_alike (inner : AudioSource σ) {s t : Session (Logged σ)} (alike : s.Alike t)
    (call : Call) : EndsBoth Alike (s.perform call) (t.perform call) := by
  by_cases goes : isRelayed call = true
  · exact perform_both inner blind_alike alike goes
  cases call with
  | setup host size count priority =>
    exact control_both (setup_alike alike host size count priority) _
  | state =>
    obtain ⟨log, rfl⟩ := alike
    show EndsBoth Alike (CallEnd.answered (.state s.lookAtState.1), s.lookAtState.2)
      (CallEnd.answered (.state (s.relog log).lookAtState.1), (s.relog log).lookAtState.2)
    unfold lookAtState
    rw [state_relog, thread?_relog]
    split
    · exact ⟨rfl, ⟨_, rfl⟩⟩
    · exact ⟨rfl, .relog s log⟩
  | close => exact closeDuring_alike alike closingTime outlast outlast_relog
  | isClosed | config | diagnostics =>
    obtain ⟨log, rfl⟩ := alike
    exact ⟨rfl, .relog s log⟩
  | _ => exact absurd rfl goes

end Calls

/-! ## All of it -/

section Runs

variable {s t : Session (Logged σ)}

theorem Alike.step (inner : AudioSource σ) (alike : s.Alike t) (event : SessionEvent) :
    (s.step event).Alike (t.step event) := by
  cases event with
  | call call => exact (perform_alike inner alike call).left
  | equip requester =>
    obtain ⟨log, rfl⟩ := alike
    exact ⟨log, rfl⟩
  | close now meanwhile =>
    exact (closeDuring_alike alike now (fun next => next.happenAll meanwhile)
      fun s log => s.happenAll_relog log meanwhile).left
  | aside event =>
    obtain ⟨log, rfl⟩ := alike
    exact ⟨log, s.happen_relog log event⟩

theorem Alike.reply (inner : AudioSource σ) (alike : s.Alike t) (event : SessionEvent) :
    t.reply event = s.reply event := by
  cases event with
  | call call =>
    have ending := (perform_alike inner alike call).ending
    show SessionReply.mk (some (t.perform call).1) [] = SessionReply.mk (some (s.perform call).1) []
    rw [ending]
  | equip requester => rfl
  | close now meanwhile =>
    have ending := (closeDuring_alike alike now (fun next => next.happenAll meanwhile)
      fun s log => s.happenAll_relog log meanwhile).ending
    have seen : seenMeanwhile meanwhile (t.beginClose now) =
        seenMeanwhile meanwhile (s.beginClose now) := by
      refine seenMeanwhile_both (beginClose_alike alike now) ?_
      rintro s t ⟨log, rfl⟩
      exact s.seenAll_relog log meanwhile
    show SessionReply.mk (some _) _ = SessionReply.mk (some _) _
    rw [ending, seen]
  | aside event =>
    obtain ⟨log, rfl⟩ := alike
    rfl

theorem Alike.run (inner : AudioSource σ) (alike : s.Alike t) (events : List SessionEvent) :
    (s.run events).Alike (t.run events) := by
  induction events generalizing s t with
  | nil => exact alike
  | cons event events ih => exact ih (alike.step inner event)

theorem Alike.replies (inner : AudioSource σ) (alike : s.Alike t) (events : List SessionEvent) :
    t.replies events = s.replies events := by
  induction events generalizing s t with
  | nil => rfl
  | cons event events ih =>
    show t.reply event :: _ = s.reply event :: _
    rw [alike.reply inner event, ih (alike.step inner event)]

/-- Nothing but the log tells the second session from the first, whatever happens to both. -/
structure Indistinct (s t : Session σ) : Prop where
  same : t = { s with log := t.log }
  replies : ∀ later, t.replies later = s.replies later
  later : ∀ later, t.run later = { s.run later with log := (t.run later).log }

theorem Alike.indistinct (inner : AudioSource σ) (alike : s.Alike t) : s.Indistinct t := by
  have same : ∀ {s t : Session (Logged σ)}, s.Alike t → t = { s with log := t.log } := by
    rintro s t ⟨log, rfl⟩
    rfl
  exact ⟨same alike, alike.replies inner, fun later => same (alike.run inner later)⟩

theorem Sound.alike_setup (h : s.Sound) {host : Host} {size count : UInt32}
    {priority : ThreadPriority} {failure : Failure}
    (failed : (s.perform (.setup host size count priority)).1 = .failed failure) :
    s.Alike (s.perform (.setup host size count priority)).2 := by
  change (s.control (setup host size count priority) fun _ => .done).1 = _ at failed
  show s.Alike (s.control (setup host size count priority) fun _ => .done).2
  have ends := s.setup_cases host size count priority
  unfold control at failed ⊢
  generalize (setup host size count priority).run.run s = ended at ends failed ⊢
  cases ends with
  | closed => exact .refl s
  | repeated => exact .relog s _
  | refused => exact .relog s _
  | unstarted why notice held idle =>
    -- the state is set back to the one that the session had
    have state := (h.idle held idle).1
    refine ⟨s.log ++ [notice], ?_⟩
    show { s with state := .idle, log := s.log ++ [notice] } = s.relog (s.log ++ [notice])
    rw [← state]
    rfl
  | done => cases failed

end Runs

/-- **Failed setup**: a setup that is refused, whatever has happened to the session before and for
whatever reason, leaves it as it was but for its log, with its transport, its device and the
priorities asked for, and nothing that happens later shows that it was made. -/
theorem setup_failed_indistinct {inner : AudioSource σ} {device : σ} {config : SessionConfig}
    {s₀ : Session (Logged σ)}
    (created : create (Logged.source inner) { device } config = .ok s₀)
    (events : List SessionEvent) (host : Host) (size count : UInt32) (priority : ThreadPriority)
    {failure : Failure}
    (failed : ((s₀.run events).perform (.setup host size count priority)).1 = .failed failure) :
    (s₀.run events).Indistinct ((s₀.run events).perform (.setup host size count priority)).2 := by
  obtain ⟨sound, -, -⟩ := sound_run created events
  exact (sound.alike_setup failed).indistinct inner

/-- A session whose thread the system does not start. -/
theorem setup_unstarted_indistinct :
    ∃ s₀ : Session (Logged Scripted),
      create (Logged.source Scripted.full) { device := {} } {} = .ok s₀ ∧
        let s := s₀.run [.call .start, .call .state]
        let setup := Call.setup { startsThreads := false } 4 2 .normal
        (s.perform setup).1 = .failed threadRefused ∧ s.Indistinct (s.perform setup).2 :=
  ⟨_, rfl, rfl, @setup_failed_indistinct Scripted Scripted.full {} {} _ rfl
    [.call .start, .call .state] { startsThreads := false } 4 2 .normal threadRefused rfl⟩

end Session

end AudioCapture
