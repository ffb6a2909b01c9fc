import AudioCapture.Proofs.Capture.History
import AudioCapture.Proofs.Session.Passing

/-!
# What can happen to a session

All that an event can do to a session of a logged device (`step_move`): a call that is passed on,
something beside the thread that owns the session, a new state, a new transport, or one of the ways
to close. What each of these keeps, every run keeps (`run_induction`).

* `happenAll_beside`, `outlast_beside` — what happens beside the owner leaves its side alone;
* `capture_of_run` — the transport of a session is one that was fresh once.
-/

namespace AudioCapture

/-! ## What a transport takes -/

/-- The system grants what a transport of so many bytes takes: the mappings of both queues, each
with its header, and the thread. It never maps more than half of the address space. -/
structure Host.Grants (host : Host) (bytes : Nat) : Prop where
  addressable : bytes + 32 ≤ 9223372036854775807
  data : host.maps (bytes + 32) = true
  records : host.maps 48 = true
  thread : host.startsThreads = true

/-- A transport of a number of chunks of a size is one that may be made. -/
structure SessionConfig.Affords (config : SessionConfig) (host : Host) (size count : UInt32) :
    Prop where
  sized : 0 < size.toNat
  counted : 0 < count.toNat
  within : size.toNat * count.toNat ≤ config.maxTransportBytes.toNat
  granted : host.Grants (size.toNat * count.toNat)

theorem Ring.make_byte_eq_ok_iff {α : Type} {host : Host} {bytes : Nat} {r : Ring α} :
    make .byte host bytes = .ok r ↔ r = .empty bytes ∧ 0 < bytes ∧
      bytes + 32 ≤ 9223372036854775807 ∧ host.maps (bytes + 32) = true := by
  have offset : ElementLayout.byte.offset = 32 := by decide
  have size : ElementLayout.byte.size = 1 := rfl
  rw [make_eq_ok_iff]
  simp only [ElementLayout.extent?_eq_some_iff, offset, size, Nat.mul_one, Nat.zero_lt_one,
    true_and, and_assoc, exists_eq_left]

theorem Ring.make_outcome_eq_ok_iff {α : Type} {host : Host} {r : Ring α} :
    make .outcome host 1 = .ok r ↔ r = .empty 1 ∧ host.maps 48 = true := by
  rw [make_eq_ok_iff]
  have bytes : ElementLayout.outcome.extent? 1 = some 48 :=
    ElementLayout.extent?_eq_some_iff.2 ⟨rfl, by decide⟩
  rw [bytes]
  simp [ElementLayout.outcome]

namespace Session

variable {σ : Type} {inner : AudioSource σ} {s t u : Session (Logged σ)}
  {made more : List DeviceCall}

/-! ## Beside the owner -/

/-- The second session comes from the first by what the capture thread and the consumer do. The
device has been read, and nothing else. -/
structure Beside (s t : Session (Logged σ)) (made : List DeviceCall) : Prop where
  same : t = { s with
    device := t.device
    capture := t.capture
    holdsReader := t.holdsReader
    pendingRead := t.pendingRead
    gateOpen := t.gateOpen
    requests := t.requests
    threadLog := t.threadLog }
  capture : ∃ events, t.capture = s.capture.map (·.run events)
  calls : t.device.calls = s.device.calls ++ made
  reads : ∀ call ∈ made, ∃ offered, call = .read offered

theorem Beside.refl (s : Session (Logged σ)) : s.Beside s [] where
  same := rfl
  capture := ⟨[], by cases s.capture <;> rfl⟩
  calls := (List.append_nil _).symm
  reads := nofun

theorem Beside.trans (first : s.Beside t made) (second : t.Beside u more) :
    s.Beside u (made ++ more) where
  same := second.same.trans (by rw [first.same])
  capture := by
    obtain ⟨before, first⟩ := first.capture
    obtain ⟨after, second⟩ := second.capture
    refine ⟨before ++ after, ?_⟩
    rw [second, first, Option.map_map]
    congr 1
    exact funext fun c => (c.run_append before after).symm
  calls := by rw [second.calls, first.calls, List.append_assoc]
  reads := by
    intro call member
    exact (List.mem_append.1 member).elim (first.reads call) (second.reads call)

theorem Beside.sameSide (h : s.Beside t made) : s.SameSide t := by
  rw [h.same]
  exact ⟨rfl, rfl, rfl, rfl, rfl, rfl, rfl⟩

theorem Beside.unclosed (h : s.Beside t made) : DeviceCall.close ∉ made := by
  intro closing
  obtain ⟨offered, same⟩ := h.reads _ closing
  cases same

/-- A step of the transport, followed by the session. -/
theorem follow_beside (wired : s.source = Logged.source inner) {c : Capture}
    (here : s.capture = some c) (event : CaptureEvent) :
    ∃ made, s.Beside (s.follow (c.step event)) made := by
  rcases stepped : c.step event with ⟨next, reply⟩
  have moved : some next = s.capture.map (·.run [event]) := by
    simp only [here, Option.map_some, Capture.run, stepped]
  cases offered : reply.offered with
  | none =>
    simp only [follow, offered]
    refine ⟨[], rfl, ⟨[event], moved⟩, (List.append_nil _).symm, ?_⟩
    intro call member
    cases member
  | some free =>
    have kept := Logged.calls_pass (.read free) (inner.read free) s.device
    rw [show Logged.pass _ _ = s.source.read free by rw [wired]; rfl] at kept
    simp only [follow, offered]
    refine ⟨[.read free], rfl, ⟨[event], moved⟩, kept, ?_⟩
    intro call member
    exact ⟨free, List.mem_singleton.1 member⟩

theorem advance_beside (wired : s.source = Logged.source inner) (event : ThreadEvent) :
    ∃ made, s.Beside (s.advance event) made := by
  cases here : s.capture with
  | none => exact ⟨[], by simpa only [advance, here] using Beside.refl s⟩
  | some c =>
    cases event with
    | proceed =>
      simp only [advance, here]
      exact follow_beside wired here .proceed
    | expire =>
      simp only [advance, here]
      exact follow_beside wired here .expire
    | comeBack =>
      cases pending : s.pendingRead with
      | none => exact ⟨[], by simpa only [advance, here, pending] using Beside.refl s⟩
      | some read =>
        simp only [advance, here, pending]
        split
        · exact ⟨[], .refl s⟩
        · -- the read is taken off the session before the thread goes on with it
          obtain ⟨made, beside⟩ :=
            follow_beside (s := { s with pendingRead := none }) wired here (.returned read)
          exact ⟨made, beside.same, beside.capture, beside.calls, beside.reads⟩
    | letGo =>
      simp only [advance, here]
      split
      · exact follow_beside wired here .letGo
      · exact ⟨[], .refl s⟩

theorem consume_beside (s : Session (Logged σ)) (event : ConsumerEvent) :
    s.Beside (s.consume event) [] := by
  have unread : s.device.calls = s.device.calls ++ [] := (List.append_nil _).symm
  unfold consume
  split
  · rename_i c held here
    cases event with
    | requestSpace => exact ⟨rfl, ⟨[.wake .spaceReady], by rw [here]; rfl⟩, unread, nofun⟩
    | takeData => exact ⟨rfl, ⟨[.take .dataReady], by rw [here]; rfl⟩, unread, nofun⟩
    | drain most => exact ⟨rfl, ⟨[.drain most], by rw [here]; rfl⟩, unread, nofun⟩
    | nextRecord => exact ⟨rfl, ⟨[.nextRecord], by rw [here]; rfl⟩, unread, nofun⟩
    | leave => exact ⟨rfl, ⟨[], by rw [here]; rfl⟩, unread, nofun⟩
  · exact .refl s

theorem release_beside (s : Session (Logged σ)) : s.Beside s.release [] where
  same := rfl
  capture := (Beside.refl s).capture
  calls := (List.append_nil _).symm
  reads := nofun

theorem happen_beside (wired : s.source = Logged.source inner) (event : AsideEvent) :
    ∃ made, s.Beside (s.happen event) made := by
  cases event with
  | thread event => exact advance_beside wired event
  | consumer event => exact ⟨[], s.consume_beside event⟩
  | release => exact ⟨[], s.release_beside⟩

theorem Beside.wired (h : s.Beside t made) (wired : s.source = Logged.source inner) :
    t.source = Logged.source inner :=
  h.sameSide.source.trans wired

theorem happenAll_beside (wired : s.source = Logged.source inner) (events : List AsideEvent) :
    ∃ made, s.Beside (s.happenAll events) made := by
  induction events generalizing s with
  | nil => exact ⟨[], .refl s⟩
  | cons event events ih =>
    obtain ⟨made, first⟩ := happen_beside wired event
    obtain ⟨more, rest⟩ := ih (first.wired wired)
    exact ⟨made ++ more, first.trans rest⟩

theorem settleWithin_beside (wired : s.source = Logged.source inner) (steps : Nat) :
    ∃ made, s.Beside (s.settleWithin steps) made := by
  induction steps generalizing s with
  | zero => exact ⟨[], .refl s⟩
  | succ steps ih =>
    cases following : s.nextEvent? with
    | none => exact ⟨[], by simpa only [settleWithin, following] using Beside.refl s⟩
    | some event =>
      obtain ⟨made, first⟩ := advance_beside wired event
      obtain ⟨more, rest⟩ := ih (first.wired wired)
      exact ⟨made ++ more, by simpa only [settleWithin, following] using first.trans rest⟩

theorem outlast_beside (wired : s.source = Logged.source inner) :
    ∃ made, s.Beside s.outlast made := by
  obtain ⟨made, first⟩ := settleWithin_beside wired settlingSteps
  obtain ⟨more, second⟩ := advance_beside (first.wired wired) .expire
  obtain ⟨rest, last⟩ := settleWithin_beside ((first.trans second).wired wired) settlingSteps
  exact ⟨_, (first.trans second).trans last⟩

/-! ## Setting up -/

/-- How setting up ends, with what it leaves of the session: its refusals, in the order in which
they are looked for, and a fresh transport. A session whose thread is not started goes back to
the state of one that was never set up. -/
inductive SetsUp (s : Session σ) (host : Host) (size count : UInt32) (priority : ThreadPriority) :
    Except Failure Unit × Session σ → Prop
  | closed : s.holdsSource = false → SetsUp s host size count priority (.error .closed, s)
  | repeated : s.holdsSource = true → s.state.hasTransport = true →
      SetsUp s host size count priority (.error .alreadyPrepared, s.note .setupRepeated)
  | refused (why : String) (notices : List Notice) : s.holdsSource = true →
      s.state.hasTransport = false → ¬ s.config.Affords host size count →
      SetsUp s host size count priority
        (.error (.invalidArguments why), { s with log := s.log ++ notices })
  | unstarted (why : String) (notice : Notice) : s.holdsSource = true →
      s.state.hasTransport = false → ¬ s.config.Affords host size count →
      SetsUp s host size count priority
        (.error (.invalidArguments why), { s with state := .idle }.note notice)
  | done : s.holdsSource = true → s.state.hasTransport = false →
      s.config.Affords host size count →
      SetsUp s host size count priority (.ok (), { s with
        state := .prepared
        holdsTransport := true
        holdsReader := true
        capture := some (.fresh size.toNat count.toNat priority s.requester) }.note
          (.prepared count.toNat size.toNat priority))

theorem setup_cases (s : Session σ) (host : Host) (size count : UInt32)
    (priority : ThreadPriority) :
    s.SetsUp host size count priority ((setup host size count priority).run.run s) := by
  show s.SetsUp host size count priority (setup host size count priority s)
  cases held : s.holdsSource with
  | false =>
    have same : setup host size count priority s = (.error .closed, s) := by simp [setup, held]
    rw [same]
    exact .closed held
  | true =>
  cases twice : s.state.hasTransport with
  | true =>
    have same : setup host size count priority s =
        (.error .alreadyPrepared, s.note .setupRepeated) := by simp [setup, held, twice]
    rw [same]
    exact .repeated held twice
  | false =>
  -- a refusal that logs nothing
  have quiet : ∀ {why : String}, ¬ s.config.Affords host size count →
      s.SetsUp host size count priority (.error (.invalidArguments why), s) := by
    intro why poor
    have refusal : s.SetsUp host size count priority _ := .refused why [] held twice poor
    rwa [List.append_nil] at refusal
  by_cases zero : size.toNat * count.toNat = 0
  · have same : setup host size count priority s = (.error (badSize size count), s) := by
      simp [setup, held, twice, zero]
    rw [same]
    refine quiet fun affords => ?_
    exact absurd zero (Nat.ne_of_gt (Nat.mul_pos affords.sized affords.counted))
  by_cases large : s.config.maxTransportBytes.toNat < size.toNat * count.toNat
  · have same : setup host size count priority s = (.error (overLimit (size.toNat * count.toNat)
        s.config.maxTransportBytes.toNat), s) := by
      simp [setup, held, twice, zero, large]
    rw [same]
    exact quiet fun affords => absurd affords.within (Nat.not_le.2 large)
  cases data : Ring.make (α := UInt8) .byte host (size.toNat * count.toNat) with
  | error fault =>
    have same : setup host size count priority s =
        (.error fault.failure, s.note (.dataQueueInvalid fault.failure)) := by
      simp [setup, held, twice, zero, large, Queue.make, data, Except.map]
    rw [same]
    refine .refused _ [_] held twice fun affords => ?_
    have positive := Nat.pos_of_ne_zero zero
    rw [Ring.make_byte_eq_ok_iff.2
      ⟨rfl, positive, affords.granted.addressable, affords.granted.data⟩] at data
    cases data
  | ok ring =>
  obtain ⟨rfl, positive, addressable, mapped⟩ := Ring.make_byte_eq_ok_iff.1 data
  cases records : Ring.make (α := ReadOutcome) .outcome host 1 with
  | error fault =>
    have same : setup host size count priority s =
        (.error fault.failure, s.note (.statusQueueInvalid fault.failure)) := by
      simp [setup, held, twice, zero, large, Queue.make, data, records, Except.map]
    rw [same]
    refine .refused _ [_] held twice fun affords => ?_
    rw [Ring.make_outcome_eq_ok_iff.2 ⟨rfl, affords.granted.records⟩] at records
    cases records
  | ok slot =>
  obtain ⟨rfl, alsoMapped⟩ := Ring.make_outcome_eq_ok_iff.1 records
  cases starts : host.startsThreads with
  | false =>
    have same : setup host size count priority s = (.error threadRefused,
        { s with state := .idle }.note (.threadNotStarted threadRefused)) := by
      simp [setup, held, twice, zero, large, Queue.make, Queue.bind?, data, records, starts,
        Except.map]
    rw [same]
    refine .unstarted _ _ held twice fun affords => ?_
    exact absurd (starts.symm.trans affords.granted.thread) Bool.false_ne_true
  | true =>
    have same : setup host size count priority s = (.ok (), { s with
        state := .prepared
        holdsTransport := true
        holdsReader := true
        capture := some (.fresh size.toNat count.toNat priority s.requester) }.note
          (.prepared count.toNat size.toNat priority)) := by
      simp [setup, held, twice, zero, large, Queue.make, Queue.bind?, data, records, starts,
        Except.map, Capture.fresh]
    rw [same]
    exact .done held twice ⟨Nat.pos_of_mul_pos_right positive, Nat.pos_of_mul_pos_left positive,
      Nat.not_lt.1 large, addressable, mapped, alsoMapped, starts⟩

/-! ## Closing -/

section Closing

variable {s : Session σ} {c : Capture} {now : Duration} {meanwhile : Session σ → Session σ}

/-- What the first half of closing leaves of a session with a capture thread. -/
def parted (s : Session σ) (c : Capture) : Session σ :=
  { s with closed := true, holdsTransport := false, capture := some c.requestStop }

/-- There still is a thread after the wait for it. -/
theorem Beside.thread {s t : Session (Logged σ)} {made : List DeviceCall} {c : Capture}
    (h : (s.parted c).Beside t made) : ∃ d, t.capture = some d := by
  obtain ⟨events, moved⟩ := h.capture
  exact ⟨c.requestStop.run events, moved⟩

theorem closeDuring_of_closed (closed : s.closed = true) :
    s.closeDuring now meanwhile = (.failed .closed, s) := by
  simp [closeDuring, beginClose, closed]

theorem closeDuring_of_none (unclosed : s.closed = false) (idle : s.thread? = none) :
    s.closeDuring now meanwhile =
      (.answered .done, { s with closed := true }.endClose none) := by
  simp [closeDuring, beginClose, unclosed, idle]

-- The time to wait is a variable here: to look into it means to calculate with large numbers.
theorem beginClose_of_some (unclosed : s.closed = false) (thread : s.thread? = some c)
    {time : Except Breakdown Duration} (wait : joinTime now s.config = time) :
    s.beginClose now = (.within time, s.parted c) := by
  subst wait
  simp only [beginClose, unclosed, thread]
  rfl

theorem closeDuring_of_error (unclosed : s.closed = false) (thread : s.thread? = some c)
    {breakdown : Breakdown} (late : joinTime now s.config = .error breakdown) :
    s.closeDuring now meanwhile = (.brokeDown breakdown, s.parted c) := by
  simp only [closeDuring, beginClose_of_some unclosed thread late, Closing.within]

theorem closeDuring_of_ok (unclosed : s.closed = false) (thread : s.thread? = some c)
    {timeout : Duration} (timely : joinTime now s.config = .ok timeout) :
    s.closeDuring now meanwhile =
      (.answered .done, (meanwhile (s.parted c)).endClose (some timeout)) := by
  simp only [closeDuring, beginClose_of_some unclosed thread timely, Closing.within]

theorem releaseSource_eq (s : Session σ) :
    s.releaseSource = { s with
      holdsSource := false
      device := if s.holdsSource then (s.source.close.run s.device).2 else s.device } := by
  unfold releaseSource
  split
  · rfl
  · rename_i gone
    rw [Bool.not_eq_true] at gone
    cases s
    simp only at gone
    subst gone
    rfl

/-- What the second half of closing leaves when there was no thread to wait for. -/
theorem endClose_none (s : Session σ) :
    s.endClose none = { s with
      state := .closed
      holdsSource := false
      device := if s.holdsSource then (s.source.close.run s.device).2 else s.device
      log := s.log ++ [.sessionClosed] } := by
  simp only [endClose, releaseSource_eq]
  rfl

/-- What it leaves of a session and its thread. -/
theorem endClose_some {s : Session σ} {c : Capture} (here : s.capture = some c)
    (timeout : Duration) :
    s.endClose (some timeout) = { s.letThreadGo timeout c with
      state := .closed
      holdsSource := false
      device := if s.holdsSource then (s.source.close.run s.device).2 else s.device
      log := (s.letThreadGo timeout c).log ++ [.sessionClosed] } := by
  simp only [endClose, releaseSource_eq, here]
  rfl

end Closing

/-! ## All of it -/

/-- All that an event can do to a session; `times` are the readings of the clock at which it may
be closed. -/
inductive Move (times : Duration → Prop) (s : Session (Logged σ)) : Session (Logged σ) → Prop
  | passed {t : Session (Logged σ)} (made : List DeviceCall) : s.Passed t made → Move times s t
  | beside {t : Session (Logged σ)} (made : List DeviceCall) : s.Beside t made → Move times s t
  | equipped (requester : Requester) : Move times s { s with requester }
  | ran : s.state = .prepared → s.thread?.any (fun c => decide (c.state = .running)) = true →
      Move times s ({ s with state := .running }.note .sessionRunning)
  /-- Setting up was given up when the thread was not started. -/
  | unstarted (notice : Notice) : s.holdsSource = true → s.state.hasTransport = false →
      Move times s ({ s with state := .idle }.note notice)
  | prepared (size count : Nat) (priority : ThreadPriority) : s.holdsSource = true →
      s.state.hasTransport = false → 0 < size * count →
      size * count ≤ s.config.maxTransportBytes.toNat →
      Move times s ({ s with
        state := .prepared
        holdsTransport := true
        holdsReader := true
        capture := some (.fresh size count priority s.requester) }.note
          (.prepared count size priority))
  /-- There was no thread to wait for. -/
  | closedAtOnce (now : Duration) : times now → s.closed = false → s.thread? = none →
      Move times s ({ s with closed := true }.endClose none)
  /-- The end of the wait cannot be told. -/
  | brokeDown (c : Capture) (now : Duration) (breakdown : Breakdown) : times now →
      s.closed = false → s.thread? = some c → joinTime now s.config = .error breakdown →
      Move times s (s.parted c)
  | closed {t : Session (Logged σ)} (c : Capture) (now timeout : Duration)
      (made : List DeviceCall) : times now → s.closed = false → s.thread? = some c →
      joinTime now s.config = .ok timeout → (s.parted c).Beside t made →
      Move times s (t.endClose (some timeout))

section Steps

variable {times : Duration → Prop}

theorem closeDuring_move {now : Duration} {meanwhile : Session (Logged σ) → Session (Logged σ)}
    (timely : times now)
    (beside : ∀ c, ∃ made, (s.parted c).Beside (meanwhile (s.parted c)) made) :
    s.Move times (s.closeDuring now meanwhile).2 := by
  cases closed : s.closed with
  | true =>
    rw [closeDuring_of_closed closed]
    exact .passed [] (.refl s)
  | false =>
    cases thread : s.thread? with
    | none =>
      rw [closeDuring_of_none closed thread]
      exact .closedAtOnce now timely closed thread
    | some c =>
      cases time : joinTime now s.config with
      | error breakdown =>
        rw [closeDuring_of_error closed thread time]
        exact .brokeDown c now breakdown timely closed thread time
      | ok timeout =>
        rw [closeDuring_of_ok closed thread time]
        obtain ⟨made, beside⟩ := beside c
        exact .closed c now timeout made timely closed thread time beside

theorem setup_move (host : Host) (size count : UInt32) (priority : ThreadPriority) :
    s.Move times (s.perform (.setup host size count priority)).2 := by
  show s.Move times (s.control (setup host size count priority) fun _ => .done).2
  rw [control_snd]
  have ends := s.setup_cases host size count priority
  generalize (setup host size count priority).run.run s = done at ends
  cases ends with
  | closed held => exact .passed [] (.refl s)
  | repeated held twice => exact .passed [] (.logged s [_])
  | refused why notices held twice poor => exact .passed [] (.logged s notices)
  | unstarted why notice held twice poor => exact .unstarted notice held twice
  | done held twice affords =>
    exact .prepared size.toNat count.toNat priority held twice
      (Nat.mul_pos affords.sized affords.counted) affords.within

theorem perform_move (wired : s.source = Logged.source inner) (call : Call)
    (timely : ∀ now ∈ (SessionEvent.call call).closesAt?, times now) :
    s.Move times (s.perform call).2 := by
  by_cases plain : isPassedOn call = true
  · obtain ⟨made, passed⟩ := perform_passed wired plain
    exact .passed made passed
  cases call with
  | setup host size count priority => exact setup_move host size count priority
  | state =>
    show s.Move times s.lookAtState.2
    unfold lookAtState
    split
    · rename_i seen
      rw [Bool.and_eq_true, decide_eq_true_iff] at seen
      exact .ran seen.1 seen.2
    · exact .passed [] (.refl s)
  | close => exact closeDuring_move (timely closingTime rfl) fun c => outlast_beside wired
  | _ => exact absurd rfl plain

theorem step_move (wired : s.source = Logged.source inner) (event : SessionEvent)
    (timely : ∀ now ∈ event.closesAt?, times now) : s.Move times (s.step event) := by
  cases event with
  | call call => exact perform_move wired call timely
  | equip requester => exact .equipped requester
  | close now meanwhile =>
    exact closeDuring_move (timely now rfl)
      fun c => happenAll_beside (s := s.parted c) wired meanwhile
  | aside event =>
    obtain ⟨made, beside⟩ := happen_beside wired event
    exact .beside made beside

theorem Move.equipment (move : s.Move times t) : t.config = s.config ∧ t.source = s.source := by
  cases move with
  | passed made passed => exact ⟨passed.sameSide.config, passed.sameSide.source⟩
  | beside made beside => exact ⟨beside.sameSide.config, beside.sameSide.source⟩
  | equipped | ran | unstarted | prepared | brokeDown => exact ⟨rfl, rfl⟩
  | closedAtOnce => rw [endClose_none]; exact ⟨rfl, rfl⟩
  | @closed t c now timeout made timely unclosed thread time beside =>
    obtain ⟨d, here⟩ := beside.thread
    rw [endClose_some here]
    exact ⟨beside.sameSide.config, beside.sameSide.source⟩

/-- What every move keeps, every run keeps. -/
theorem run_induction (Kept : Session (Logged σ) → Prop)
    (kept : ∀ {s t : Session (Logged σ)}, s.Move times t → Kept s → Kept t)
    (wired : s.source = Logged.source inner) (start : Kept s) (events : List SessionEvent)
    (timely : ∀ event ∈ events, ∀ now ∈ event.closesAt?, times now) : Kept (s.run events) := by
  induction events generalizing s with
  | nil => exact start
  | cons event events ih =>
    have move := step_move wired event (timely event List.mem_cons_self)
    exact ih (move.equipment.2.trans wired) (kept move start)
      fun later member => timely later (List.mem_cons_of_mem event member)

end Steps

/-! ## Transports -/

/-- The transport of a session was fresh once, and all that has happened to it since are steps of
it. -/
def Reached (c : Capture) : Prop :=
  ∃ size count priority requester events, 0 < size * count ∧
    c = (Capture.fresh size count priority requester).run events

theorem Reached.run {c : Capture} (h : Reached c) (events : List CaptureEvent) :
    Reached (c.run events) := by
  obtain ⟨size, count, priority, requester, before, positive, rfl⟩ := h
  exact ⟨size, count, priority, requester, before ++ events, positive,
    (Capture.run_append _ _ _).symm⟩

theorem capture_of_thread? {s : Session σ} {c : Capture} (h : s.thread? = some c) :
    s.capture = some c := by
  unfold thread? at h
  split at h
  · exact h
  · cases h

theorem Move.reached {times : Duration → Prop} (move : s.Move times t)
    (kept : ∀ c ∈ s.capture, Reached c) : ∀ c ∈ t.capture, Reached c := by
  -- every step of a session takes its transport along a run, but for setting up a new one
  have through : ∀ (events : List CaptureEvent) {first last : Option Capture},
      last = first.map (·.run events) → (∀ c ∈ first, Reached c) → ∀ c ∈ last, Reached c := by
    intro events first last same kept c member
    subst same
    obtain ⟨before, here, rfl⟩ := Option.map_eq_some_iff.1 member
    exact (kept before here).run events
  -- closing asks the thread to stop, in three steps
  have parted : ∀ {c : Capture}, s.thread? = some c → ∀ d ∈ (s.parted c).capture, Reached d :=
    fun thread => through [.stop, .stop, .stop] (by rw [capture_of_thread? thread]; rfl) kept
  cases move with
  | passed made passed => rw [passed.same]; exact kept
  | beside made beside =>
    obtain ⟨events, moved⟩ := beside.capture
    exact through events moved kept
  | equipped | ran | unstarted => exact kept
  | prepared size count priority =>
    intro c member
    cases member
    exact ⟨size, count, priority, s.requester, [], ‹_›, rfl⟩
  | closedAtOnce =>
    rw [endClose_none]
    exact kept
  | brokeDown c now breakdown timely unclosed thread time => exact parted thread
  | closed c now timeout made timely unclosed thread time beside =>
    obtain ⟨events, moved⟩ := beside.capture
    obtain ⟨d, here⟩ := beside.thread
    rw [endClose_some here]
    exact through [.join] (by rw [here]; rfl) (through events moved (parted thread))

/-- Whatever happens to a session, its transport is in a state that a fresh transport can reach. -/
theorem capture_of_run (wired : s.source = Logged.source inner) (unprepared : s.capture = none)
    (events : List SessionEvent) {c : Capture} (here : (s.run events).capture = some c) :
    Reached c := by
  have always : ∀ event ∈ events, ∀ now ∈ event.closesAt?, True := fun _ _ _ _ => trivial
  exact run_induction (fun s => ∀ c ∈ s.capture, Reached c) Move.reached wired
    (by simp [unprepared]) events always c here

end Session

end AudioCapture
