import AudioCapture.Proofs.Capture.Remainder
import AudioCapture.Proofs.Capture.Requests
import AudioCapture.Proofs.Session.SingleSteps
import AudioCapture.Proofs.Session.Stopping

/-!
# Consumers that outlive their session

The consumer keeps its end of the transport when the session is closed, and a thread that was let
go may still be at the other end. Nothing but the two of them does anything to the transport any
more (`Survives`), so the consumer gets what was there and at most one iteration more
(`reader_outlives`).

* `Parting` — what holds of the thread of a session that is closed;
* `closed_step_cases` — what a closed session still does to its transport.
-/

namespace AudioCapture

/-- What each call of a consumer gets of a transport, and what it leaves there. -/
structure Capture.Serves (c : Capture) : Prop where
  drain : ∀ most, (c.drain most).2 = c.data.ring.contents.take most ∧
    (c.drain most).1.data.ring.contents = c.data.ring.contents.drop most
  nextRecord : c.nextRecord.2 = c.slot? ∧ c.nextRecord.1.slot? = none
  takeData : c.takeData.2 = c.news ∧ c.takeData.1.news = false
  /-- To ask for space changes nothing but the pending signals. -/
  requestSpace : c.requestSpace =
    { c with data := { c.data with signals := c.data.signals.union .spaceReady } }

theorem Capture.HasSlot.serves {c : Capture} (slot : c.HasSlot) (valid : c.data.ring.Valid) :
    c.Serves where
  drain most := ⟨valid.read_snd_eq_take most, valid.contents_read most⟩
  nextRecord := ⟨slot.nextRecord, slot.step .nextRecord⟩
  takeData := ⟨Signals.sees_data c.data.signals, Bool.and_false _⟩
  requestSpace := rfl

/-- The two replies show the same to a consumer, whatever else they show. -/
structure CaptureReply.SameView (seen replies : List CaptureReply) : Prop where
  bytes : seen.flatMap bytes = replies.flatMap bytes
  records : seen.filterMap record = replies.filterMap record
  news : seen.countP hasNews = replies.countP hasNews

theorem CaptureReply.SameView.append {seen seen' replies replies' : List CaptureReply}
    (first : SameView seen replies) (second : SameView seen' replies') :
    SameView (seen ++ seen') (replies ++ replies') := by
  refine ⟨?_, ?_, ?_⟩
  · rw [List.flatMap_append, List.flatMap_append, first.bytes, second.bytes]
  · rw [List.filterMap_append, List.filterMap_append, first.records, second.records]
  · rw [List.countP_append, List.countP_append, first.news, second.news]

namespace Capture

/-- A thread is in a read if one has just begun, or it was in it before. -/
theorem reading_step (c : Capture) (event : CaptureEvent) {free : Nat}
    (reading : (c.step event).1.point = .reading free) :
    (c.step event).2.offered ≠ none ∨ c.point = .reading free := by
  have move := c.step_control event
  change (c.step event).1.control.point = .reading free at reading
  generalize (c.step event).1.control = next at move reading
  generalize (c.step event).2.offered = offered at move
  cases move with
  | still | flagged | marked | missed | returned | joined => exact .inr reading
  | went here leads =>
    subst reading
    cases leads
  | began => exact .inl nofun
  | brokeDown | entered | left => cases reading

/-- It is in no read when one has come back. -/
theorem point_returned_ne (c : Capture) (read : DeviceRead) (free : Nat) :
    (c.returned read).1.point ≠ .reading free := by
  unfold returned
  split
  · split
    · nofun
    · nofun
    · nofun
  · rename_i elsewhere
    exact elsewhere free

end Capture

namespace Session

variable {σ : Type} {inner : AudioSource σ} {s t : Session (Logged σ)} {c d : Capture}

/-! ## The thread of a session -/

/-- What holds of the thread of every session: it is to stop when the session is closed, and if it
is in a read then that is under way. -/
structure Parting (s : Session (Logged σ)) : Prop where
  marked : ∀ c, s.capture = some c → c.control.Marked
  idle : s.closed = false → s.thread? = none → s.capture = none
  stopping : s.closed = true → ∀ c, s.capture = some c → c.stopFlag = true
  reading : ∀ c free, s.capture = some c → c.point = .reading free →
    ∃ read, s.pendingRead = some read

theorem pendingRead_follow (s : Session σ) (done : Capture × CaptureReply) :
    (done.2.offered = none → (s.follow done).pendingRead = s.pendingRead) ∧
      (done.2.offered ≠ none → ∃ read, (s.follow done).pendingRead = some read) := by
  unfold follow
  dsimp only
  split
  · rename_i none
    exact ⟨fun _ => rfl, fun some => absurd none some⟩
  · rename_i some
    exact ⟨fun none => absurd (none.symm.trans some) nofun, fun _ => ⟨_, rfl⟩⟩

theorem Parting.stepped (h : s.Parting) (here : s.capture = some c) (event : CaptureEvent)
    (there : t.capture = some (c.step event).1) (closed : t.closed = s.closed)
    (transport : t.holdsTransport = s.holdsTransport)
    (reading : ∀ free, (c.step event).1.point = .reading free →
      ∃ read, t.pendingRead = some read) : t.Parting := by
  refine ⟨?_, ?_, ?_, ?_⟩
  · intro d same
    cases there.symm.trans same
    exact (h.marked c here).move (c.step_control event)
  · intro unclosed apart
    have before : s.thread? = none := by
      unfold thread? at apart ⊢
      rw [transport] at apart
      split at apart
      · cases there.symm.trans apart
      · rename_i lost
        exact if_neg lost
    cases here.symm.trans (h.idle (closed.symm.trans unclosed) before)
  · intro shut d same
    cases there.symm.trans same
    exact (Capture.step_nearer (h.stopping (closed.symm.trans shut) c here) event).stopping
  · intro d free same
    cases there.symm.trans same
    exact reading free

theorem Parting.congr (h : s.Parting) (capture : t.capture = s.capture)
    (closed : t.closed = s.closed) (transport : t.holdsTransport = s.holdsTransport)
    (pending : t.pendingRead.isSome = s.pendingRead.isSome) : t.Parting := by
  have thread : t.thread? = s.thread? := by
    unfold thread?
    rw [transport, capture]
  refine ⟨?_, ?_, ?_, ?_⟩
  · rw [capture]
    exact h.marked
  · rw [capture, closed, thread]
    exact h.idle
  · rw [capture, closed]
    exact h.stopping
  · intro c free here reading
    obtain ⟨read, under⟩ := h.reading c free (capture.symm.trans here) reading
    exact Option.isSome_iff_exists.1 (pending.trans (by rw [under]; rfl))

theorem Parting.asideStep (h : s.Parting) (aside : s.AsideStep t) : t.Parting := by
  cases aside with
  | still => exact h
  | thread c event here threads =>
    obtain ⟨device, pendingRead, same, -⟩ := s.follow_eq (c.step event)
    have pending := s.pendingRead_follow (c.step event)
    refine h.stepped here event (by rw [same]) (by rw [same]) (by rw [same]) ?_
    intro free reading
    by_cases begins : (c.step event).2.offered = none
    · rw [pending.1 begins]
      rcases c.reading_step event reading with some | before
      · exact absurd begins some
      · exact h.reading c free here before
    · exact pending.2 begins
  | returned c read here pending =>
    obtain ⟨device, pendingRead, same, -⟩ :=
      { s with pendingRead := none }.follow_eq (c.step (.returned read))
    refine h.stepped here (.returned read) (by rw [same]) (by rw [same]) (by rw [same]) ?_
    intro free reading
    exact absurd reading (c.point_returned_ne read free)
  | consumer c event here consumers =>
    refine h.stepped here event rfl rfl rfl ?_
    intro free reading
    cases event with
    | wake | take | drain | nextRecord => exact h.reading c free here reading
    | _ => cases consumers
  | left => exact h.congr rfl rfl rfl rfl
  | released =>
    refine h.congr rfl rfl rfl ?_
    show (s.pendingRead.map _).isSome = _
    rw [Option.isSome_map]

theorem Parting.singleStep (h : s.Parting) (single : s.SingleStep t) : t.Parting := by
  cases single with
  | passed made passed =>
    have side := passed.sameSide
    exact h.congr (by rw [passed.same]) side.closed side.holdsTransport (by rw [passed.same])
  | aside aside => exact h.asideStep aside
  | equipped | ran => exact h.congr rfl rfl rfl rfl
  | prepared size count priority idle unclosed =>
    refine ⟨?_, ?_, ?_, ?_⟩
    · intro c there
      cases there
      exact ⟨nofun, nofun, nofun⟩
    · intro _ apart
      cases apart
    · intro closed
      exact absurd (unclosed.symm.trans closed) Bool.false_ne_true
    · intro c free there reading
      cases there
      cases reading
  | closedAtOnce unclosed apart =>
    have none := h.idle unclosed apart
    rw [endClose_none]
    refine ⟨?_, nofun, ?_, ?_⟩
    · intro c there
      cases none.symm.trans there
    · intro _ c there
      cases none.symm.trans there
    · intro c free there
      cases none.symm.trans there
  | parted c unclosed thread =>
    have here := capture_of_thread? thread
    refine ⟨?_, nofun, ?_, ?_⟩
    · intro d there
      cases there
      exact Capture.marked_run (h.marked c here) [.stop, .stop, .stop]
    · intro _ d there
      cases there
      exact Capture.stopFlag_requestStop (h.marked c here)
    · intro d free there reading
      cases there
      have same : c.requestStop.point = c.point := by
        simp only [Capture.requestStop, Capture.point_stop]
      exact h.reading c free here (same.symm.trans reading)
  | letGo c timeout closed apart here =>
    have same : (s.endClose (some timeout)).pendingRead = s.pendingRead := by
      rw [endClose_some here]
      rfl
    refine h.stepped here .join ?_ ?_ ?_ ?_
    · rw [endClose_some here]
      rfl
    · rw [endClose_some here]
      rfl
    · rw [endClose_some here]
      rfl
    · intro free reading
      rw [same]
      exact h.reading c free here (c.point_join.symm.trans reading)

theorem parting_create {device : Logged σ} {config : SessionConfig}
    (created : create (Logged.source inner) device config = .ok s) : s.Parting := by
  have none := capture_create created
  refine ⟨?_, fun _ _ => none, ?_, ?_⟩
  · intro c there
    cases none.symm.trans there
  · intro _ c there
    cases none.symm.trans there
  · intro c free there
    cases none.symm.trans there

/-! ## After closing -/

/-- A closed session does nothing to its transport any more. -/
theorem closed_step_cases (sound : s.Sound) (wired : s.source = Logged.source inner)
    (closed : s.closed = true) (event : SessionEvent) :
    (∃ aside, event = .aside aside) ∨ (s.step event).capture = s.capture ∧
      (s.step event).pendingRead = s.pendingRead ∧ (s.reply event).seen = [] := by
  cases event with
  | aside event => exact .inl ⟨event, rfl⟩
  | equip requester => exact .inr ⟨rfl, rfl, rfl⟩
  | close now meanwhile =>
    have refused : s.beginClose now = (.refused .closed, s) := if_pos closed
    have same : s.step (.close now meanwhile) = s :=
      congrArg Prod.snd (closeDuring_of_closed closed)
    refine .inr ⟨by rw [same], by rw [same], ?_⟩
    show seenMeanwhile meanwhile (s.beginClose now) = []
    rw [refused]
    rfl
  | call call =>
    refine .inr ?_
    show (s.perform call).2.capture = _ ∧ (s.perform call).2.pendingRead = _ ∧ ([] : List _) = []
    by_cases plain : isPassedOn call = true
    · obtain ⟨made, passed⟩ := perform_passed wired plain
      rw [passed.same]
      exact ⟨rfl, rfl, rfl⟩
    cases call with
    | setup host size count priority =>
      show (s.control (setup host size count priority) fun _ => .done).2.capture = _ ∧
        (s.control (setup host size count priority) fun _ => .done).2.pendingRead = _ ∧ _
      rw [control_snd]
      have ends := s.setup_cases host size count priority
      generalize (setup host size count priority).run.run s = done at ends
      cases ends with
      | closed | repeated | refused | unstarted => exact ⟨rfl, rfl, rfl⟩
      | done held idle affords =>
        -- only a session that was never set up can be
        exact absurd ((sound.idle held idle).2.symm.trans closed) Bool.false_ne_true
    | state =>
      show s.lookAtState.2.capture = _ ∧ s.lookAtState.2.pendingRead = _ ∧ _
      unfold lookAtState
      split
      · exact ⟨rfl, rfl, rfl⟩
      · exact ⟨rfl, rfl, rfl⟩
    | close =>
      rw [perform_of_closed closed]
      exact ⟨rfl, rfl, rfl⟩
    | _ => exact absurd rfl plain

/-- What comes back of a read that is under way. -/
def Awaits (s : Session σ) (read : DeviceRead) : Prop :=
  ∃ under, s.pendingRead = some under ∧ read.fill = under.fill ∧ read.ending = under.ending

/-- What has become of the transport that a session was left with: its thread and its consumer have
gone on, and nobody else has done anything to it. -/
structure Survives (gone : Session σ) (d : Capture) (last : Session σ) (seen : List CaptureReply)
    (events : List CaptureEvent) : Prop where
  here : last.capture = some (d.run events)
  ours : ∀ event ∈ events, event.isPrivate = true
  view : CaptureReply.SameView seen (d.replies events)
  awaited : d.offers events = [] → (∀ read, .returned read ∈ events → gone.Awaits read) ∧
    ∀ read, last.pendingRead = some read → gone.Awaits read

section Survives

variable {gone last : Session (Logged σ)} {seen more : List CaptureReply}
  {events : List CaptureEvent}

theorem survives_refl (here : gone.capture = some d) : gone.Survives d gone [] [] := by
  refine ⟨here, nofun, ⟨rfl, rfl, rfl⟩, fun _ => ⟨nofun, ?_⟩⟩
  intro read pending
  exact ⟨read, pending, rfl, rfl⟩

/-- The transport is left alone. -/
theorem Survives.still (h : gone.Survives d s seen events) (capture : t.capture = s.capture)
    (view : CaptureReply.SameView more [])
    (awaited : ∀ read, t.pendingRead = some read → s.Awaits read) :
    gone.Survives d t (seen ++ more) events := by
  refine ⟨capture.trans h.here, h.ours, ?_, ?_⟩
  · have both := h.view.append view
    rwa [List.append_nil] at both
  · intro quiet
    obtain ⟨returned, pending⟩ := h.awaited quiet
    refine ⟨returned, ?_⟩
    intro read under
    obtain ⟨before, there, fill, ending⟩ := awaited read under
    obtain ⟨first, at_first, fill', ending'⟩ := pending before there
    exact ⟨first, at_first, fill.trans fill', ending.trans ending'⟩

/-- A step of the transport. -/
theorem Survives.stepped (h : gone.Survives d s seen events) (here : s.capture = some c)
    (event : CaptureEvent) (ours : event.isPrivate = true)
    (there : t.capture = some (c.step event).1)
    (view : CaptureReply.SameView more [(c.step event).2])
    (returned : ∀ read, event = .returned read → s.pendingRead = some read)
    (pending : (c.step event).2.offered = none →
      ∀ read, t.pendingRead = some read → s.pendingRead = some read) :
    gone.Survives d t (seen ++ more) (events ++ [event]) := by
  cases here.symm.trans h.here
  refine ⟨?_, ?_, ?_, ?_⟩
  · rw [there, Capture.run_append]
    rfl
  · intro other member
    rcases List.mem_append.1 member with before | now
    · exact h.ours other before
    · exact List.mem_singleton.1 now ▸ ours
  · rw [Capture.replies_append]
    exact h.view.append view
  · intro quiet
    rw [Capture.offers_append, List.append_eq_nil_iff, Capture.offers_cons,
      List.append_eq_nil_iff] at quiet
    obtain ⟨before, now, -⟩ := quiet
    obtain ⟨came, under⟩ := h.awaited before
    refine ⟨?_, ?_⟩
    · intro read member
      rcases List.mem_append.1 member with old | new
      · exact came read old
      · exact under read (returned read (List.mem_singleton.1 new).symm)
    · intro read there
      exact under read (pending (Option.toList_eq_nil_iff.1 now) read there)

/-- What the thread does shows the consumer nothing. -/
theorem Survives.advance (h : gone.Survives d s seen events) (event : ThreadEvent) :
    ∃ events, gone.Survives d (s.advance event) seen events := by
  have still : ∃ events, gone.Survives d s seen events := ⟨events, h⟩
  -- a step that the session follows, of the session or of what is left when the read is taken
  have followed : ∀ {r : Session (Logged σ)} {c : Capture} (event : CaptureEvent),
      s.capture = some c → event.isPrivate = true → (∀ mask, event ≠ .take mask) →
      (∀ most, event ≠ .drain most) → event ≠ .nextRecord →
      (∀ read, event = .returned read → s.pendingRead = some read) →
      (∀ read, r.pendingRead = some read → s.pendingRead = some read) →
      ∃ events, gone.Survives d (r.follow (c.step event)) seen events := by
    intro r c event here ours untaken undrained unrecorded returned pending
    obtain ⟨device, pendingRead, same, -⟩ := r.follow_eq (c.step event)
    obtain ⟨bytes, record⟩ := c.step_silent undrained unrecorded
    have quiet := c.step_quiet ours untaken
    have silent : CaptureReply.SameView [] [(c.step event).2] := by
      refine ⟨?_, ?_, ?_⟩
      · simp [bytes]
      · simp [record]
      · simp [quiet]
    have stepped := h.stepped (t := r.follow (c.step event)) here event ours (by rw [same])
      silent
      returned ?_
    · rw [List.append_nil] at stepped
      exact ⟨_, stepped⟩
    · intro none read under
      exact pending read (((r.pendingRead_follow _).1 none).symm.trans under)
  have here := h.here
  cases event with
  | proceed =>
    simp only [Session.advance, here]
    exact followed (r := s) .proceed here rfl (by simp) (by simp) (by simp) (by simp) fun _ => id
  | expire =>
    simp only [Session.advance, here]
    exact followed (r := s) .expire here rfl (by simp) (by simp) (by simp) (by simp) fun _ => id
  | comeBack =>
    cases pending : s.pendingRead with
    | none =>
      simp only [Session.advance, here, pending]
      exact still
    | some read =>
      simp only [Session.advance, here, pending]
      split
      · exact still
      · refine followed (r := { s with pendingRead := none }) (.returned read) here rfl
          (by simp) (by simp) (by simp) ?_ (by simp)
        rintro read' ⟨⟩
        exact pending
  | letGo =>
    simp only [Session.advance, here]
    split
    · exact followed (r := s) .letGo here rfl (by simp) (by simp) (by simp) (by simp) fun _ => id
    · exact still

theorem Survives.consume (h : gone.Survives d s seen events) (event : ConsumerEvent) :
    ∃ events, gone.Survives d (s.consume event) (seen ++ [s.consumed event]) events := by
  have unseen : CaptureReply.SameView [{}] [] := ⟨rfl, rfl, rfl⟩
  have awaited : ∀ read, s.pendingRead = some read → s.Awaits read :=
    fun read under => ⟨read, under, rfl, rfl⟩
  have here := h.here
  unfold Session.consume consumed
  cases s.holdsReader with
  | false => exact ⟨events, h.still rfl unseen awaited⟩
  | true =>
    rw [here]
    cases event with
    | requestSpace =>
      exact ⟨_, h.stepped here (.wake .spaceReady) rfl rfl ⟨rfl, rfl, rfl⟩ nofun
        fun _ _ => id⟩
    | takeData =>
      exact ⟨_, h.stepped here (.take .dataReady) rfl rfl ⟨rfl, rfl, rfl⟩ nofun
        fun _ _ => id⟩
    | drain most =>
      exact ⟨_, h.stepped here (.drain most) rfl rfl ⟨rfl, rfl, rfl⟩ nofun fun _ _ => id⟩
    | nextRecord =>
      exact ⟨_, h.stepped here .nextRecord rfl rfl ⟨rfl, rfl, rfl⟩ nofun fun _ _ => id⟩
    | leave => exact ⟨events, h.still here.symm unseen awaited⟩

theorem Survives.happen (h : gone.Survives d s seen events) (event : AsideEvent) :
    ∃ events, gone.Survives d (s.happen event) (seen ++ s.seen event) events := by
  cases event with
  | thread event =>
    obtain ⟨events, after⟩ := h.advance event
    exact ⟨events, by rw [Session.seen, List.append_nil]; exact after⟩
  | consumer event => exact h.consume event
  | release =>
    refine ⟨events, h.still rfl ⟨rfl, rfl, rfl⟩ ?_⟩
    intro read under
    obtain ⟨before, there, rfl⟩ := Option.map_eq_some_iff.1 under
    exact ⟨before, there, rfl, rfl⟩

theorem Survives.run (h : gone.Survives d s seen events) (sound : s.Sound)
    (wired : s.source = Logged.source inner) (closed : s.closed = true)
    (later : List SessionEvent) :
    ∃ events, gone.Survives d (s.run later)
      (seen ++ (s.replies later).flatMap SessionReply.seen) events := by
  induction later generalizing s seen events with
  | nil =>
    refine ⟨events, ?_⟩
    show gone.Survives d s (seen ++ []) events
    rw [List.append_nil]
    exact h
  | cons event later ih =>
    have move : s.Move (fun _ => True) (s.step event) := step_move wired event fun _ _ => trivial
    obtain ⟨events, next⟩ : ∃ events,
        gone.Survives d (s.step event) (seen ++ (s.reply event).seen) events := by
      rcases closed_step_cases sound wired closed event with ⟨aside, rfl⟩ | ⟨capture, pending, none⟩
      · exact h.happen aside
      · refine ⟨events, h.still capture (by rw [none]; exact ⟨rfl, rfl, rfl⟩) ?_⟩
        intro read under
        exact ⟨read, pending.symm.trans under, rfl, rfl⟩
    obtain ⟨events, rest⟩ := ih next (sound.move move) (move.equipment.2.trans wired)
      (move.closed_of_closed closed)
    refine ⟨events, ?_⟩
    rw [List.append_assoc] at rest
    exact rest

end Survives

/-! ## All of it -/

/-- The history of a transport that a session can have. -/
theorem Reached.observed (h : Reached c) :
    ∃ w : Observed, w.capture = c ∧ w.Accounted ∧ w.capture.HasSlot := by
  obtain ⟨size, count, priority, requester, events, positive, rfl⟩ := h
  have accounted := Observed.accounted_history positive priority requester events
  exact ⟨_, Observed.run_capture _ events, accounted, accounted.exact.standing.records,
    Observed.slot_history _ events⟩

/-- What is known of a session that has been let go. -/
structure LetGoOf (inner : AudioSource σ) (s : Session (Logged σ)) : Prop where
  closed : s.closed = true
  sound : s.Sound
  wired : s.source = Logged.source inner
  parting : s.Parting
  reached : ∀ c, s.capture = some c → Reached c

theorem letGoOf_dropDuring (sound : s.Sound) (wired : s.source = Logged.source inner)
    (parting : s.Parting) (reached : ∀ c, s.capture = some c → Reached c) (now : Duration)
    (meanwhile : List AsideEvent) :
    LetGoOf inner (s.dropDuring now fun next => next.happenAll meanwhile).2 := by
  have beside : ∀ c, ∃ made,
      (s.parted c).Beside ((s.parted c).happenAll meanwhile) made :=
    fun c => happenAll_beside (s := s.parted c) wired meanwhile
  cases closed : s.closed with
  | true =>
    rw [dropDuring, if_pos closed]
    exact ⟨closed, sound, wired, parting, reached⟩
  | false =>
    rw [dropDuring, if_neg (by rw [closed]; exact Bool.false_ne_true)]
    have move : s.Move (fun _ => True)
        (s.closeDuring now fun next => next.happenAll meanwhile).2 :=
      closeDuring_move trivial beside
    refine ⟨?_, sound.move move, move.equipment.2.trans wired, ?_, move.reached reached⟩
    · cases thread : s.thread? with
      | none =>
        rw [closeDuring_of_none closed thread, endClose_none]
      | some c =>
        cases time : joinTime now s.config with
        | error breakdown =>
          rw [closeDuring_of_error closed thread time]
          rfl
        | ok timeout =>
          obtain ⟨made, aside⟩ := beside c
          obtain ⟨d, here⟩ := aside.thread
          rw [closeDuring_of_ok closed thread time, endClose_some here]
          exact aside.sameSide.closed
    · have keptAside : ∀ {s t : Session (Logged σ)}, s.AsideStep t → s.Parting → t.Parting :=
        fun aside parting => parting.asideStep aside
      exact closeDuring_induction (fun single parting => parting.singleStep single) parting now
        (fun t parting => happenAll_induction keptAside parting meanwhile) beside

/-- **Consumers outlive sessions**: when a session has been closed, or let go of, at any time and
whatever its thread was doing then, the bytes that its consumer reads later are those that were
there, in order, and the same goes for the outcome in the slot and for the signal of new data. What
is added to them is what one iteration adds at most: that of the read which the thread was left in,
and nothing at all if the thread was joined, broke down, or had yet to come to its loop. -/
theorem reader_outlives {device : σ} {config : SessionConfig} {s₀ : Session (Logged σ)}
    (created : create (Logged.source inner) { device } config = .ok s₀)
    (events : List SessionEvent) (now : Duration) (meanwhile : List AsideEvent)
    (later : List SessionEvent) :
    let gone := ((s₀.run events).dropDuring now fun next => next.happenAll meanwhile).2
    let last := gone.run later
    gone.closed = true ∧ ∀ d, gone.capture = some d →
      ∃ (e : Capture) (i : Iteration) (bytes : List UInt8) (outcome? : Option ReadOutcome)
        (signals : Nat), last.capture = some e ∧ e.Serves ∧
        d.Remains e ((gone.replies later).flatMap SessionReply.seen) bytes outcome? signals ∧
        i.Adds bytes outcome? signals ∧
        (d.point.isSpent = true → bytes = [] ∧ outcome? = none ∧ signals = 0) ∧
        ∀ free, d.point = .reading free → ∃ read, gone.pendingRead = some read ∧ i.room = free ∧
          (i.ending = none ∨
            i.ending = some read.ending ∧ i.buffer = d.buffer.within free read.fill) := by
  intro gone last
  obtain ⟨sound, -, wired⟩ := sound_run created events
  have new := sound_create created rfl
  have reached : ∀ c, (s₀.run events).capture = some c → Reached c := fun c here =>
    capture_of_run (equipment_create created).2 (capture_create created) events here
  have parting : (s₀.run events).Parting :=
    singleStep_induction Parting (fun single parting => parting.singleStep single)
      (equipment_create created).2 new
      (parting_create created) events
  have left : LetGoOf inner gone := letGoOf_dropDuring sound wired parting reached now meanwhile
  refine ⟨left.closed, fun d here => ?_⟩
  obtain ⟨after, survives⟩ := (survives_refl here).run left.sound left.wired left.closed later
  rw [List.nil_append] at survives
  obtain ⟨w, rfl, accounted, slot⟩ := (left.reached d here).observed
  have stopping := left.parting.stopping left.closed _ here
  -- what comes back to a thread that was left in a read is what was under way then
  let returns : DeviceRead → Prop := fun read => w.capture.offers after = [] → gone.Awaits read
  have returned : ∀ read, .returned read ∈ after → returns read :=
    fun read member quiet => (survives.awaited quiet).1 read member
  obtain ⟨i, bytes, outcome?, signals, adds, remains, spent, grown⟩ :=
    accounted.remains slot stopping survives.ours returned
  have serves : (w.capture.run after).Serves := by
    rw [← w.run_capture after]
    exact (accounted.slot_run slot after).serves (accounted.run after).exact.standing.data
  have view := survives.view
  refine ⟨_, i, bytes, outcome?, signals, survives.here, serves, ?_, adds, spent, ?_⟩
  · obtain ⟨stream, outcomes, news, kept, told⟩ := remains
    rw [← view.bytes] at stream
    rw [← view.records] at outcomes
    rw [← view.news] at news kept told
    exact ⟨stream, outcomes, news, kept, told⟩
  · intro free point
    have grows := grown free point
    obtain ⟨read, under⟩ := left.parting.reading _ free here point
    have quiet : w.capture.offers after = [] :=
      Capture.offers_eq_nil stopping (by rw [point]; rfl) after
    refine ⟨read, under, grows.room, ?_⟩
    rcases grows.returned rfl with ⟨none, -⟩ | ⟨back, awaited, ending, buffer⟩
    · exact .inl none
    · obtain ⟨first, there, fill, ended⟩ := awaited quiet
      cases under.symm.trans there
      exact .inr ⟨by rw [ending, ended], by rw [buffer, fill]⟩

/-- A session whose thread has been round its loop once and is in a second read. -/
def survivalSample : List SessionEvent :=
  .call (.setup {} 4 2 .normal) :: List.replicate 3 (.aside (.thread .proceed)) ++
    .aside (.consumer .requestSpace) :: List.replicate 2 (.aside (.thread .proceed)) ++
    .aside (.thread .comeBack) :: List.replicate 4 (.aside (.thread .proceed)) ++
    .aside (.consumer .requestSpace) :: List.replicate 2 (.aside (.thread .proceed))

/-- What its consumer does later: it takes what is there, and again when the read has come back. -/
def survivalLater : List SessionEvent :=
  [.aside (.consumer .takeData), .aside (.consumer (.drain 3)), .aside (.consumer .nextRecord),
    .aside (.thread .comeBack)] ++ List.replicate 4 (.aside (.thread .proceed)) ++
    [.aside (.consumer .takeData), .aside (.consumer (.drain 9)), .aside (.consumer .nextRecord),
      .aside (.consumer .requestSpace), .aside (.consumer .takeData), .aside (.consumer (.drain 9)),
      .aside (.consumer .nextRecord)]

theorem reader_outlives_reading :
    ∃ s₀ : Session (Logged Scripted),
      create (Logged.source Scripted.full) { device := {} } {} = .ok s₀ ∧
        let gone := ((s₀.run survivalSample).dropDuring closingTime fun next =>
          next.happenAll []).2
        let seen := (gone.replies survivalLater).flatMap SessionReply.seen
        gone.capture.map Capture.point = some (.reading 4) ∧
          seen.map CaptureReply.bytes =
            [[], [1, 1, 1], [], [], [1, 1, 1, 1, 1], [], [], [], [], []] ∧
          seen.filterMap CaptureReply.record = [.ok 4, .ok 4] ∧
          seen.map CaptureReply.hasNews =
            [true, false, false, true, false, false, false, false, false, false] ∧
          ∃ (d e : Capture) (i : Iteration) (bytes : List UInt8) (outcome? : Option ReadOutcome)
            (signals : Nat), gone.capture = some d ∧
            d.Remains e seen bytes outcome? signals ∧ i.Adds bytes outcome? signals ∧
            i.room = 4 := by
  have outlives := @reader_outlives Scripted Scripted.full {} {} _ rfl survivalSample closingTime []
    survivalLater
  obtain ⟨-, all⟩ := outlives
  obtain ⟨e, i, bytes, outcome?, signals, -, -, remains, adds, -, reading⟩ := all _ rfl
  obtain ⟨read, -, room, -⟩ := reading 4 rfl
  exact ⟨_, rfl, rfl, by decide, by decide, by decide, _, e, i, bytes, outcome?, signals, rfl,
    remains, adds, room⟩

end Session

end AudioCapture
