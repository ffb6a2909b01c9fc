import AudioCapture.Proofs.Capture.Losses
import AudioCapture.Proofs.Session.Replay
import AudioCapture.Proofs.Session.Survival

/-!
# The transport of a session, as a run of its own

All that happens to the transport of a session, from when it is made until nobody uses it any more,
is a run of it (`Follows`): the consumer sees what the run shows it, the capture thread logs what
its steps notice, and the reads that come back in it are those that the device was asked for, but
for one that may be under way.

* `Follows.stepped`, `Follows.still` — the session when its transport takes a step, and when not;
* `tracked_run` — every run of a session.
-/

namespace AudioCapture

namespace Capture

variable {c : Capture} {event : CaptureEvent}

theorem IsFresh.point (h : c.IsFresh) : c.point = .launched := by
  obtain ⟨_, _, _, _, -, rfl⟩ := h
  rfl

/-- The read that a thread is in, with what the device makes of it. -/
def underway (c : Capture) (pending : Option DeviceRead) : List Exchange :=
  match c.point, pending with
  | .reading free, some read => [read.offered free]
  | _, _ => []

theorem underway_of_reading {free : Nat} (point : c.point = .reading free)
    (pending : Option DeviceRead) :
    c.underway pending = pending.toList.map (·.offered free) := by
  unfold underway
  rw [point]
  cases pending <;> rfl

theorem underway_of_elsewhere (elsewhere : ∀ free, c.point ≠ .reading free)
    (pending : Option DeviceRead) : c.underway pending = [] := by
  unfold underway
  split
  · rename_i free _ point
    exact absurd point (elsewhere free)
  · rfl

/-- A read that was held is the same read when it is let go. -/
theorem underway_release (c : Capture) (pending : Option DeviceRead) :
    c.underway (pending.map fun read => { read with held := false }) = c.underway pending := by
  unfold underway
  cases c.point <;> cases pending <;> rfl

/-- A thread stays in its read until that comes back. -/
theorem point_step_of_reading {free : Nat} (point : c.point = .reading free)
    (unreturned : ∀ read, event ≠ .returned read) : (c.step event).1.point = .reading free := by
  cases event with
  | returned read => exact absurd rfl (unreturned read)
  | stop => exact c.point_stop.trans point
  | join => exact c.point_join.trans point
  | wake | take | drain | nextRecord => exact point
  | proceed | expire | letGo => simp [step, proceed, expire, letGo, point]

theorem underway_step (quiet : (c.step event).2.offered = none)
    (unreturned : ∀ read, event ≠ .returned read) (pending : Option DeviceRead) :
    (c.step event).1.underway pending = c.underway pending := by
  by_cases reading : ∃ free, c.point = .reading free
  · obtain ⟨free, point⟩ := reading
    rw [underway_of_reading point, underway_of_reading (point_step_of_reading point unreturned)]
  · have elsewhere : ∀ free, c.point ≠ .reading free := fun free point => reading ⟨free, point⟩
    rw [underway_of_elsewhere elsewhere, underway_of_elsewhere]
    intro free there
    rcases c.reading_step event there with begins | point
    · exact begins quiet
    · exact elsewhere free point

theorem exchange?_of_unreturned (unreturned : ∀ read, event ≠ .returned read) :
    c.exchange? event = none := by
  cases event with
  | returned read => exact absurd rfl (unreturned read)
  | _ => rfl

/-- The read that comes back is the one that was under way. -/
theorem exchange?_returned (c : Capture) (read : DeviceRead) :
    (c.exchange? (.returned read)).toList = c.underway (some read) := by
  unfold exchange? underway
  cases c.point <;> rfl

end Capture

namespace Session

variable {σ : Type} {inner : AudioSource σ} {start : σ} {s t : Session (Logged σ)}
  {c d : Capture} {events : List CaptureEvent} {seen more : List CaptureReply}

/-! ## What a session has done -/

/-- The transport of a session was made as `c`, or is yet to be, and has taken the steps `events`
since. -/
structure Follows (inner : AudioSource σ) (start : σ) (c : Capture) (events : List CaptureEvent)
    (s : Session (Logged σ)) (seen : List CaptureReply) : Prop where
  tells : s.Tells inner start
  here : s.capture = some (c.run events) ∨ s.capture = none ∧ events = []
  view : CaptureReply.SameView seen (c.replies events)
  log : s.threadLog = c.remarks events
  /-- The counts that were kept are those at some time before. -/
  counts : ∀ shown, s.lastDiagnostics = some shown →
    ∃ earlier, earlier <+: events ∧ shown = (c.run earlier).diagnostics
  reads : inner.exchanges start s.device.calls =
    c.exchanges events ++ (c.run events).underway s.pendingRead

theorem Follows.run_eq (h : Follows inner start c events s seen) (here : s.capture = some d) :
    d = c.run events := by
  rcases h.here with there | ⟨none, -⟩
  · exact Option.some.inj (here.symm.trans there)
  · cases none.symm.trans here

/-- The transport is left alone, and nothing is read. -/
theorem Follows.still (h : Follows inner start c events s seen) (tells : t.Tells inner start)
    (capture : t.capture = s.capture) (log : t.threadLog = s.threadLog)
    (counts : t.lastDiagnostics = s.lastDiagnostics)
    (reads : inner.exchanges start t.device.calls = inner.exchanges start s.device.calls)
    (pending : ∀ c : Capture, c.underway t.pendingRead = c.underway s.pendingRead) :
    Follows inner start c events t seen := by
  refine ⟨tells, capture ▸ h.here, h.view, log ▸ h.log, counts ▸ h.counts, ?_⟩
  rw [reads, pending]
  exact h.reads

/-- What shows the consumer nothing need not be told. -/
theorem Follows.shown (h : Follows inner start c events s seen)
    (view : CaptureReply.SameView more []) : Follows inner start c events s (seen ++ more) := by
  have both := h.view.append view
  rw [List.append_nil] at both
  exact ⟨h.tells, h.here, both, h.log, h.counts, h.reads⟩

/-- A step of the transport. -/
theorem Follows.stepped (h : Follows inner start c events s seen) (here : s.capture = some d)
    (event : CaptureEvent) (tells : t.Tells inner start)
    (there : t.capture = some (d.step event).1)
    (view : CaptureReply.SameView more [(d.step event).2])
    (log : t.threadLog = s.threadLog ++ d.remark event)
    (counts : ∀ shown, t.lastDiagnostics = some shown →
      s.lastDiagnostics = some shown ∨ shown = (d.step event).1.diagnostics)
    (reads : ∀ before, inner.exchanges start s.device.calls = before ++ d.underway s.pendingRead →
      inner.exchanges start t.device.calls = before ++
        ((d.exchange? event).toList ++ (d.step event).1.underway t.pendingRead)) :
    Follows inner start c (events ++ [event]) t (seen ++ more) := by
  obtain rfl := h.run_eq here
  have moved : c.run (events ++ [event]) = ((c.run events).step event).1 := c.run_append _ _
  have replies : c.replies (events ++ [event]) =
      c.replies events ++ [((c.run events).step event).2] := c.replies_append _ _
  refine ⟨tells, .inl (moved ▸ there), ?_, ?_, ?_, ?_⟩
  · rw [replies]
    exact h.view.append view
  · rw [log, h.log, Capture.remarks_concat]
  · intro shown kept
    rcases counts shown kept with old | rfl
    · obtain ⟨earlier, before, same⟩ := h.counts shown old
      exact ⟨earlier, before.trans (List.prefix_append events [event]), same⟩
    · exact ⟨events ++ [event], List.prefix_rfl, by rw [moved]⟩
  · rw [Capture.exchanges_concat, moved, List.append_assoc]
    exact reads _ h.reads

/-- A step that neither begins a read nor ends one. -/
theorem Follows.quietly (h : Follows inner start c events s seen) (here : s.capture = some d)
    (event : CaptureEvent) (quiet : (d.step event).2.offered = none)
    (unreturned : ∀ read, event ≠ .returned read) (tells : t.Tells inner start)
    (there : t.capture = some (d.step event).1)
    (view : CaptureReply.SameView more [(d.step event).2])
    (log : t.threadLog = s.threadLog ++ d.remark event)
    (counts : ∀ shown, t.lastDiagnostics = some shown →
      s.lastDiagnostics = some shown ∨ shown = (d.step event).1.diagnostics)
    (reads : inner.exchanges start t.device.calls = inner.exchanges start s.device.calls)
    (pending : t.pendingRead = s.pendingRead) :
    Follows inner start c (events ++ [event]) t (seen ++ more) := by
  refine h.stepped here event tells there view log counts fun before given => ?_
  rw [reads, given, Capture.exchange?_of_unreturned unreturned, pending,
    Capture.underway_step quiet unreturned]
  rfl

/-! ## Beside the owner -/

theorem Tells.read (tells : s.Tells inner start) (free : Nat) :
    ((s.source.read free).run s.device).2.Told inner start ∧
      inner.exchanges start ((s.source.read free).run s.device).2.calls =
        inner.exchanges start s.device.calls ++
          [((s.source.read free).run s.device).1.offered free] := by
  have kept : (s.source.read free).run s.device =
      (Logged.pass (.read free) (inner.read free)).run s.device := by rw [tells.wired]; rfl
  rw [kept]
  refine ⟨tells.told.pass rfl, ?_⟩
  rw [Logged.calls_pass, AudioSource.exchanges_append, ← tells.told]
  rfl

theorem Tells.congr (tells : s.Tells inner start) (source : t.source = s.source)
    (device : t.device = s.device) : t.Tells inner start :=
  ⟨source.trans tells.wired, device ▸ tells.told⟩

/-- A step of the capture thread, followed by the session. -/
theorem Follows.follow (h : Follows inner start c events s seen) (here : s.capture = some d)
    (event : CaptureEvent) (ours : event.isPrivate = true) (untaken : ∀ mask, event ≠ .take mask)
    (undrained : ∀ most, event ≠ .drain most) (unrecorded : event ≠ .nextRecord)
    (unreturned : ∀ read, event ≠ .returned read) (unjoined : event ≠ .join) :
    Follows inner start c (events ++ [event]) (s.follow (d.step event)) seen := by
  obtain ⟨bytes, record⟩ := d.step_silent undrained unrecorded
  have view : CaptureReply.SameView [] [(d.step event).2] := by
    have quiet := d.step_quiet ours untaken
    exact ⟨by simp [bytes], by simp [record], by simp [quiet]⟩
  have log : s.threadLog ++ (d.step event).2.notices = s.threadLog ++ d.remark event := by
    rw [Capture.remark_eq_notices unjoined]
  rw [← List.append_nil seen]
  unfold Session.follow
  dsimp only
  split
  · rename_i quiet
    exact h.quietly here event quiet unreturned (h.tells.congr rfl rfl) rfl view log
      (fun _ => .inl) rfl rfl
  · rename_i free begins
    obtain ⟨rfl, granted, -⟩ := Capture.offered_step begins
    obtain ⟨told, calls⟩ := h.tells.read free
    have before : d.underway s.pendingRead = [] :=
      Capture.underway_of_elsewhere (by simp [granted]) _
    have after : (d.step .proceed).1.point = .reading free := by
      have step : d.step .proceed = d.proceed := rfl
      rw [step, Capture.proceed_granted granted] at begins ⊢
      cases begins
      rfl
    refine h.stepped here .proceed ⟨h.tells.wired, told⟩ rfl view log (fun _ => .inl) ?_
    intro earlier given
    rw [before, List.append_nil] at given
    rw [Capture.underway_of_reading after]
    exact calls.trans (congrArg (· ++ _) given)

/-- The read comes back that the thread is in. -/
theorem Follows.returned (h : Follows inner start c events s seen) (here : s.capture = some d)
    {read : DeviceRead} (pending : s.pendingRead = some read) :
    Follows inner start c (events ++ [.returned read])
      ({ s with pendingRead := none }.follow (d.step (.returned read))) seen := by
  have view : CaptureReply.SameView [] [(d.step (.returned read)).2] := by
    obtain ⟨bytes, record⟩ : (d.step (.returned read)).2.bytes = [] ∧
        (d.step (.returned read)).2.record = none := d.step_silent (by simp) (by simp)
    have quiet : (d.step (.returned read)).2.hasNews = false := d.step_quiet rfl (by simp)
    exact ⟨by simp [bytes], by simp [record], by simp [quiet]⟩
  rw [← List.append_nil seen]
  unfold Session.follow
  dsimp only
  split
  · refine h.stepped here (.returned read) (h.tells.congr rfl rfl) rfl view rfl
      (fun _ => .inl) ?_
    intro earlier given
    rw [pending] at given
    have empty : (d.step (.returned read)).1.underway none = [] := by
      unfold Capture.underway
      split <;> first | rfl | contradiction
    rw [empty, List.append_nil, Capture.exchange?_returned]
    exact given
  · rename_i free begins
    cases (Capture.offered_step begins).1

theorem Follows.advance (h : Follows inner start c events s seen) (event : ThreadEvent) :
    ∃ events, Follows inner start c events (s.advance event) seen := by
  cases here : s.capture with
  | none =>
    simp only [Session.advance, here]
    exact ⟨events, h⟩
  | some d =>
    cases event with
    | proceed =>
      simp only [Session.advance, here]
      exact ⟨_, h.follow here .proceed rfl (by simp) (by simp) (by simp) (by simp) (by simp)⟩
    | expire =>
      simp only [Session.advance, here]
      exact ⟨_, h.follow here .expire rfl (by simp) (by simp) (by simp) (by simp) (by simp)⟩
    | comeBack =>
      cases pending : s.pendingRead with
      | none =>
        simp only [Session.advance, here, pending]
        exact ⟨events, h⟩
      | some read =>
        simp only [Session.advance, here, pending]
        split
        · exact ⟨events, h⟩
        · exact ⟨_, h.returned here pending⟩
    | letGo =>
      simp only [Session.advance, here]
      split
      · exact ⟨_, h.follow here .letGo rfl (by simp) (by simp) (by simp) (by simp) (by simp)⟩
      · exact ⟨events, h⟩

theorem Follows.consume (h : Follows inner start c events s seen) (event : ConsumerEvent) :
    ∃ events, Follows inner start c events (s.consume event) (seen ++ [s.consumed event]) := by
  have unseen : CaptureReply.SameView [{}] [] := ⟨rfl, rfl, rfl⟩
  have unlogged : s.threadLog = s.threadLog ++ [] := (List.append_nil _).symm
  unfold Session.consume consumed
  cases s.holdsReader with
  | false => exact ⟨events, h.shown unseen⟩
  | true =>
    cases here : s.capture with
    | none => exact ⟨events, h.shown unseen⟩
    | some d =>
      cases event with
      | requestSpace =>
        exact ⟨_, h.quietly here (.wake .spaceReady) rfl (by simp) (h.tells.congr rfl rfl) rfl
          ⟨rfl, rfl, rfl⟩ unlogged (fun _ => .inl) rfl rfl⟩
      | takeData =>
        exact ⟨_, h.quietly here (.take .dataReady) rfl (by simp) (h.tells.congr rfl rfl) rfl
          ⟨rfl, rfl, rfl⟩ unlogged (fun _ => .inl) rfl rfl⟩
      | drain most =>
        exact ⟨_, h.quietly here (.drain most) rfl (by simp) (h.tells.congr rfl rfl) rfl
          ⟨rfl, rfl, rfl⟩ unlogged (fun _ => .inl) rfl rfl⟩
      | nextRecord =>
        exact ⟨_, h.quietly here .nextRecord rfl (by simp) (h.tells.congr rfl rfl) rfl
          ⟨rfl, rfl, rfl⟩ unlogged (fun _ => .inl) rfl rfl⟩
      | leave =>
        have left : Follows inner start c events { s with holdsReader := false } seen :=
          h.still (h.tells.congr rfl rfl) rfl rfl rfl rfl fun _ => rfl
        rw [here] at left
        exact ⟨events, left.shown unseen⟩

theorem Follows.happen (h : Follows inner start c events s seen) (event : AsideEvent) :
    ∃ events, Follows inner start c events (s.happen event) (seen ++ s.seen event) := by
  cases event with
  | thread event =>
    rw [Session.seen, List.append_nil]
    exact h.advance event
  | consumer event => exact h.consume event
  | release =>
    rw [Session.seen, List.append_nil]
    exact ⟨events, h.still (h.tells.congr rfl rfl) rfl rfl rfl rfl
      fun c => c.underway_release s.pendingRead⟩

theorem Follows.happenAll (h : Follows inner start c events s seen) (meanwhile : List AsideEvent) :
    ∃ events, Follows inner start c events (s.happenAll meanwhile)
      (seen ++ s.seenAll meanwhile) := by
  induction meanwhile generalizing s seen events with
  | nil => exact ⟨events, (List.append_nil seen).symm ▸ h⟩
  | cons event meanwhile ih =>
    obtain ⟨events, next⟩ := h.happen event
    rw [seenAll, ← List.append_assoc]
    exact ih next

theorem Follows.settleWithin (h : Follows inner start c events s seen) (steps : Nat) :
    ∃ events, Follows inner start c events (s.settleWithin steps) seen := by
  induction steps generalizing s events with
  | zero => exact ⟨events, h⟩
  | succ steps ih =>
    unfold Session.settleWithin
    split
    · exact ⟨events, h⟩
    · obtain ⟨events, next⟩ := h.advance _
      exact ih next

theorem Follows.outlast (h : Follows inner start c events s seen) :
    ∃ events, Follows inner start c events s.outlast seen := by
  obtain ⟨events, settled⟩ := h.settleWithin settlingSteps
  obtain ⟨events, expired⟩ := settled.advance .expire
  exact expired.settleWithin settlingSteps

/-! ## The owner -/

theorem Follows.passed (h : Follows inner start c events s seen) {made : List DeviceCall}
    (passed : s.Passed t made) (tells : t.Tells inner start) :
    Follows inner start c events t seen := by
  have reads : inner.exchanges start t.device.calls = inner.exchanges start s.device.calls := by
    rw [passed.calls, AudioSource.exchanges_append,
      AudioSource.exchanges_eq_nil fun offered => passed.unread offered, List.append_nil]
  exact h.still tells (by rw [passed.same]) (by rw [passed.same]) (by rw [passed.same]) reads
    fun c => by rw [passed.same]

/-- What a session leaves of its device when it closes it, if it has it. -/
theorem Tells.close (tells : s.Tells inner start) {device : Logged σ}
    (left : device = if s.holdsSource then (s.source.close.run s.device).2 else s.device) :
    device.Told inner start ∧
      inner.exchanges start device.calls = inner.exchanges start s.device.calls := by
  have kept : (s.source.close.run s.device).2 =
      ((Logged.pass .close inner.close).run s.device).2 := by rw [tells.wired]; rfl
  rw [kept] at left
  subst left
  split
  · refine ⟨tells.told.pass rfl, ?_⟩
    rw [Logged.calls_pass, AudioSource.exchanges_append]
    exact List.append_nil _
  · exact ⟨tells.told, rfl⟩

/-- Closing without a thread to wait for. -/
theorem Follows.endClose_none (h : Follows inner start c events s seen) :
    Follows inner start c events (s.endClose none) seen := by
  obtain ⟨told, reads⟩ := h.tells.close rfl
  rw [Session.endClose_none]
  exact h.still ⟨h.tells.wired, told⟩ rfl rfl rfl reads fun _ => rfl

/-- The second half of closing joins the thread, if there is one. -/
theorem Follows.endClose (h : Follows inner start c events s seen) (timeout : Duration) :
    ∃ events, Follows inner start c events (s.endClose (some timeout)) seen := by
  cases here : s.capture with
  | none =>
    have same : s.endClose (some timeout) = s.endClose none := by
      simp only [Session.endClose, here]
    rw [same]
    exact ⟨events, h.endClose_none⟩
  | some d =>
    obtain ⟨told, reads⟩ := h.tells.close rfl
    have quiet : (d.step .join).2.offered = none := by
      show d.join.2.offered = none
      unfold Capture.join
      split <;> rfl
    have view : CaptureReply.SameView [] [(d.step .join).2] := by
      show CaptureReply.SameView [] [d.join.2]
      unfold Capture.join
      split <;> exact ⟨rfl, rfl, rfl⟩
    rw [endClose_some here, ← List.append_nil seen]
    -- what a join notices goes into the log of the session
    exact ⟨_, h.quietly here .join quiet (by simp) ⟨h.tells.wired, told⟩ rfl view
      (List.append_nil _).symm (fun shown kept => .inr (Option.some.inj kept).symm) reads rfl⟩

/-- The first half of closing asks the thread to stop, in three steps. -/
theorem Follows.parted (h : Follows inner start c events s seen) (here : s.capture = some d) :
    ∃ events, Follows inner start c events (s.parted d) seen := by
  have stop : ∀ {t u : Session (Logged σ)} {d : Capture} {events : List CaptureEvent},
      Follows inner start c events t seen → t.capture = some d →
        u = { t with
          capture := some d.stop, closed := u.closed, holdsTransport := u.holdsTransport } →
        Follows inner start c (events ++ [.stop]) u seen := by
    intro t u d events h here same
    rw [← List.append_nil seen]
    exact h.quietly here .stop rfl (by simp) (h.tells.congr (by rw [same]) (by rw [same]))
      (by rw [same]; rfl) ⟨rfl, rfl, rfl⟩ (by rw [same]; exact (List.append_nil _).symm)
      (fun shown kept => .inl (by rwa [same] at kept)) (by rw [same]) (by rw [same])
  have flagged := stop (u := { s with capture := some d.stop }) h here rfl
  have unmarked := stop (u := { s with capture := some d.stop.stop }) flagged rfl rfl
  exact ⟨_, stop (u := s.parted d) unmarked rfl rfl⟩

/-- What the consumer is shown while a session that is being closed waits for its thread. -/
def shownWhile (watched : Session σ → List CaptureReply) :
    Closing × Session σ → List CaptureReply
  | (.joining _, next) => watched next
  | _ => []

theorem seenMeanwhile_eq (meanwhile : List AsideEvent) (begun : Closing × Session σ) :
    seenMeanwhile meanwhile begun = shownWhile (fun next => next.seenAll meanwhile) begun := by
  obtain ⟨closing, next⟩ := begun
  cases closing <;> rfl

theorem shownWhile_nil (begun : Closing × Session σ) : shownWhile (fun _ => []) begun = [] := by
  obtain ⟨closing, next⟩ := begun
  cases closing <;> rfl

/-- Closing, while something is done that shows the consumer `watched`. -/
theorem Follows.closeDuring (h : Follows inner start c events s seen) (now : Duration)
    {meanwhile : Session (Logged σ) → Session (Logged σ)}
    {watched : Session (Logged σ) → List CaptureReply}
    (keeps : ∀ {t : Session (Logged σ)} {events : List CaptureEvent},
      Follows inner start c events t seen →
        ∃ events, Follows inner start c events (meanwhile t) (seen ++ watched t)) :
    ∃ events, Follows inner start c events (s.closeDuring now meanwhile).2
      (seen ++ shownWhile watched (s.beginClose now)) := by
  cases closed : s.closed with
  | true =>
    have refused : s.beginClose now = (.refused .closed, s) := if_pos closed
    rw [closeDuring_of_closed closed, refused]
    exact ⟨events, (List.append_nil seen).symm ▸ h⟩
  | false =>
    cases thread : s.thread? with
    | none =>
      have begins : s.beginClose now = (.immediate, { s with closed := true }) := by
        simp only [beginClose, closed, thread]
        rfl
      have marked : Follows inner start c events { s with closed := true } seen :=
        h.still (h.tells.congr rfl rfl) rfl rfl rfl rfl fun _ => rfl
      rw [closeDuring_of_none closed thread, begins]
      exact ⟨events, (List.append_nil seen).symm ▸ marked.endClose_none⟩
    | some d =>
      obtain ⟨events, parted⟩ := h.parted (capture_of_thread? thread)
      cases time : joinTime now s.config with
      | error breakdown =>
        rw [closeDuring_of_error closed thread time, beginClose_of_some closed thread time]
        exact ⟨events, (List.append_nil seen).symm ▸ parted⟩
      | ok timeout =>
        rw [closeDuring_of_ok closed thread time, beginClose_of_some closed thread time]
        obtain ⟨events, waited⟩ := keeps parted
        exact waited.endClose timeout

/-! ## All of it -/

/-- The transport of a session was made fresh, or is yet to be, and what has become of it since is a
run of it. -/
def Tracked (inner : AudioSource σ) (start : σ) (s : Session (Logged σ))
    (seen : List CaptureReply) : Prop :=
  ∃ c events, c.IsFresh ∧ Follows inner start c events s seen

theorem Tracked.tells (h : Tracked inner start s seen) : s.Tells inner start := by
  obtain ⟨c, events, -, follows⟩ := h
  exact follows.tells

theorem Tracked.of_follows (h : Tracked inner start s seen)
    (after : ∀ c events, Follows inner start c events s seen →
      ∃ events, Follows inner start c events t more) : Tracked inner start t more := by
  obtain ⟨c, events, fresh, follows⟩ := h
  obtain ⟨events, next⟩ := after c events follows
  exact ⟨c, events, fresh, next⟩

/-- Nothing is done to the transport or to the device. -/
theorem Tracked.still (h : Tracked inner start s seen) (source : t.source = s.source)
    (device : t.device = s.device) (capture : t.capture = s.capture)
    (log : t.threadLog = s.threadLog) (counts : t.lastDiagnostics = s.lastDiagnostics)
    (pending : t.pendingRead = s.pendingRead) : Tracked inner start t seen := by
  refine h.of_follows fun c events follows => ⟨events, ?_⟩
  exact follows.still (follows.tells.congr source device) capture log counts (by rw [device])
    fun c => by rw [pending]

/-- A new transport. -/
theorem Tracked.prepared (h : Tracked inner start s seen) (sound : s.Sound) (parting : s.Parting)
    (unclosed : s.closed = false) (idle : s.state.hasTransport = false) (fresh : d.IsFresh)
    (source : t.source = s.source) (device : t.device = s.device) (there : t.capture = some d)
    (log : t.threadLog = s.threadLog) (counts : t.lastDiagnostics = s.lastDiagnostics) :
    Tracked inner start t seen := by
  obtain ⟨c, events, old, follows⟩ := h
  have untransported : s.holdsTransport = false := (sound.state unclosed).symm.trans idle
  have none : s.capture = none :=
    parting.idle unclosed (if_neg (by rw [untransported]; exact Bool.false_ne_true))
  have unused : events = [] := by
    rcases follows.here with here | ⟨-, unused⟩
    · cases none.symm.trans here
    · exact unused
  subst unused
  have reads := follows.reads
  rw [Capture.exchanges, List.nil_append, Capture.run,
    Capture.underway_of_elsewhere (by simp [old.point])] at reads
  refine ⟨d, [], fresh, follows.tells.congr source device, .inl there, follows.view,
    log.trans follows.log, ?_, ?_⟩
  · intro shown kept
    rw [counts, sound.unstored unclosed] at kept
    cases kept
  · rw [device, reads, Capture.exchanges, List.nil_append, Capture.run,
      Capture.underway_of_elsewhere (by simp [fresh.point])]

theorem Tracked.setup (h : Tracked inner start s seen) (sound : s.Sound) (parting : s.Parting)
    (host : Host) (size count : UInt32) (priority : ThreadPriority) :
    Tracked inner start (s.perform (.setup host size count priority)).2 seen := by
  show Tracked inner start
    (s.control (Session.setup host size count priority) fun _ => .done).2 seen
  rw [control_snd]
  have ends := s.setup_cases host size count priority
  generalize (Session.setup host size count priority).run.run s = done at ends
  cases ends with
  | closed held => exact h
  | repeated held twice => exact h.still rfl rfl rfl rfl rfl rfl
  | refused why notices held twice poor => exact h.still rfl rfl rfl rfl rfl rfl
  | unstarted why notice held twice poor => exact h.still rfl rfl rfl rfl rfl rfl
  | done held twice affords =>
    have fresh : (Capture.fresh size.toNat count.toNat priority s.requester).IsFresh :=
      ⟨_, _, _, _, Nat.mul_pos affords.sized affords.counted, rfl⟩
    exact h.prepared sound parting (sound.idle held twice).2 twice fresh rfl rfl rfl rfl rfl

theorem Tracked.step (h : Tracked inner start s seen) (sound : s.Sound) (parting : s.Parting)
    (event : SessionEvent) :
    Tracked inner start (s.step event) (seen ++ (s.reply event).seen) := by
  have unseen : ∀ {t : Session (Logged σ)}, Tracked inner start t seen →
      Tracked inner start t (seen ++ []) := fun tracked => (List.append_nil seen).symm ▸ tracked
  cases event with
  | equip requester => exact unseen (h.still rfl rfl rfl rfl rfl rfl)
  | aside event => exact h.of_follows fun c events follows => follows.happen event
  | close now meanwhile =>
    show Tracked inner start _ (seen ++ seenMeanwhile meanwhile (s.beginClose now))
    rw [seenMeanwhile_eq]
    exact h.of_follows fun c events follows =>
      follows.closeDuring now fun parted => parted.happenAll meanwhile
  | call call =>
    refine unseen ?_
    show Tracked inner start (s.perform call).2 seen
    by_cases plain : isPassedOn call = true
    · refine h.of_follows fun c events follows => ?_
      obtain ⟨made, passed⟩ := perform_passed follows.tells.wired plain
      exact ⟨_, follows.passed passed (perform_tells follows.tells plain)⟩
    cases call with
    | setup host size count priority => exact h.setup sound parting host size count priority
    | state =>
      show Tracked inner start s.lookAtState.2 seen
      unfold lookAtState
      split
      · exact h.still rfl rfl rfl rfl rfl rfl
      · exact h
    | close =>
      refine h.of_follows fun c events follows => ?_
      have closed := follows.closeDuring closingTime
        (fun parted => (List.append_nil seen).symm ▸ parted.outlast)
      rwa [shownWhile_nil, List.append_nil] at closed
    | _ => exact absurd rfl plain

theorem Tracked.run (h : Tracked inner start s seen) (sound : s.Sound) (parting : s.Parting)
    (later : List SessionEvent) :
    Tracked inner start (s.run later) (seen ++ (s.replies later).flatMap SessionReply.seen) := by
  induction later generalizing s seen with
  | nil => exact (List.append_nil seen).symm ▸ h
  | cons event later ih =>
    have wired := h.tells.wired
    have move : s.Move (fun _ => True) (s.step event) := step_move wired event fun _ _ => trivial
    have parted : (s.step event).Parting :=
      step_induction (fun single parting => parting.singleStep single) wired sound parting event
    have next := ih (h.step sound parting event) (sound.move move) parted
    rwa [List.append_assoc] at next

/-- Every session whose device is logged is tracked, from when it was created. -/
theorem tracked_run {device : σ} {config : SessionConfig} {s₀ : Session (Logged σ)}
    (created : create (Logged.source inner) { device } config = .ok s₀)
    (events : List SessionEvent) :
    Tracked inner device (s₀.run events) ((s₀.replies events).flatMap SessionReply.seen) := by
  have new : Tracked inner device s₀ [] := by
    refine ⟨.fresh 1 1 .normal .ignoring, [], ⟨_, _, _, _, Nat.one_pos, rfl⟩, ?_⟩
    unfold create at created
    split at created
    · cases created
    · cases created
      exact ⟨⟨rfl, rfl⟩, .inr ⟨rfl, rfl⟩, ⟨rfl, rfl, rfl⟩, rfl, by simp, rfl⟩
  exact new.run (sound_create created rfl) (parting_create created) events

end Session

end AudioCapture
