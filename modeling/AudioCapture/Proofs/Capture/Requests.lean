import AudioCapture.Proofs.Capture.Stopping

/-!
# Requests for a priority

A capture thread asks for its priority with the first step that it takes, if it is an elevated one,
and never again; whom it asks and what for is settled when it is launched (`step_asks`). A thread
whose request is held or takes it with it gets no further (`step_penned`).

* `step_mirrors` — as long as it is answered, the request shows in nothing but the log.
-/

namespace AudioCapture

/-- Whether a thread there has yet to get past its request for a priority. -/
def CapturePoint.isAhead : CapturePoint → Bool
  | .launched | .requesting => true
  | _ => false

namespace Capture

variable {c : Capture} {done : Capture × CaptureReply}

/-! ## Asking once -/

/-- What a thread has asked for, by where it stands. -/
def asked (c : Capture) : List ThreadPriority :=
  if c.priority.isElevated = true ∧ c.point ≠ .launched then [c.priority] else []

/-- What a step does to the request of the thread. -/
structure Asks (c : Capture) (done : Capture × CaptureReply) : Prop where
  requester : done.1.requester = c.requester
  priority : done.1.priority = c.priority
  asked : done.1.asked = c.asked ++ done.2.requested.toList
  /-- A thread that has yet to get past its request was there before and has begun no read. -/
  ahead : done.1.point.isAhead = true → c.point.isAhead = true ∧ done.2.offered = none
  elevated : done.1.point = .requesting → c.point = .requesting ∨ c.priority.isElevated = true

/-- A step that asks for nothing. -/
theorem asks_of_silent (requester : done.1.requester = c.requester)
    (priority : done.1.priority = c.priority) (silent : done.2.requested = none)
    (point : done.1.point = c.point ∧ done.2.offered = none ∨
      done.1.point.isAhead = false ∧ c.point ≠ .launched) : c.Asks done := by
  refine ⟨requester, priority, ?_, ?_, ?_⟩
  · rw [silent, Option.toList_none, List.append_nil, Capture.asked, Capture.asked, priority]
    rcases point with ⟨same, -⟩ | ⟨past, begun⟩
    · rw [same]
    · have there : done.1.point ≠ .launched := by
        intro launched
        rw [launched] at past
        cases past
      simp only [ne_eq, there, begun, not_false_eq_true]
  · intro ahead
    rcases point with ⟨same, quiet⟩ | ⟨past, -⟩
    · exact ⟨same ▸ ahead, quiet⟩
    · exact absurd (past.symm.trans ahead) Bool.false_ne_true
  · intro requesting
    rcases point with ⟨same, -⟩ | ⟨past, -⟩
    · exact .inl (same ▸ requesting)
    · rw [requesting] at past
      cases past

theorem asks_still (c : Capture) : c.Asks (c, {}) := asks_of_silent rfl rfl rfl (.inl ⟨rfl, rfl⟩)

theorem lookForGrant_asks {expired : Capture} (waiting : c.point = .waiting)
    (otherwise : c.Asks (expired, {})) : c.Asks (c.lookForGrant expired) := by
  unfold lookForGrant
  dsimp only
  split
  · exact asks_of_silent rfl rfl rfl (.inr ⟨rfl, by rw [waiting]; nofun⟩)
  · exact otherwise

theorem endRequest_asks (requesting : c.point = .requesting) (ends : RequestEnd) :
    c.Asks (c.endRequest ends) := by
  have begun : c.point ≠ .launched := by simp [requesting]
  obtain ⟨point, notices, same, rfl | rfl | rfl⟩ := c.endRequest_eq ends
  · exact same ▸ asks_of_silent rfl rfl rfl (.inr ⟨rfl, begun⟩)
  · exact same ▸ asks_of_silent rfl rfl rfl (.inl ⟨rfl, rfl⟩)
  · exact same ▸ asks_of_silent rfl rfl rfl (.inr ⟨rfl, begun⟩)

theorem proceed_asks (c : Capture) : c.Asks c.proceed := by
  cases point : c.point with
  | launched =>
    simp only [proceed, point]
    split
    · rename_i elevated
      refine ⟨rfl, rfl, ?_, fun _ => ⟨by rw [point]; rfl, rfl⟩, fun _ => .inr elevated⟩
      simp [Capture.asked, point, elevated]
    · rename_i plain
      refine ⟨rfl, rfl, ?_, by simp [CapturePoint.isAhead], by simp⟩
      simp [Capture.asked, point, plain]
  | requesting =>
    simp only [proceed, point]
    exact endRequest_asks point _
  | waiting =>
    simp only [proceed, point]
    exact lookForGrant_asks point (asks_still c)
  | testing =>
    simp only [proceed, point]
    refine asks_of_silent rfl rfl rfl (.inr ⟨?_, by simp [point]⟩)
    cases c.stopFlag with
    | true => rfl
    | false => rfl
  | recording outcome =>
    simp only [proceed, point, publishRecord]
    split
    · exact asks_of_silent rfl rfl rfl (.inr ⟨rfl, by simp [point]⟩)
    · exact asks_of_silent rfl rfl rfl (.inr ⟨rfl, by simp [point]⟩)
  | entering | granted | storing | signalling | leaving =>
    simp only [proceed, point]
    exact asks_of_silent rfl rfl rfl (.inr ⟨rfl, by simp [point]⟩)
  | reading | ended | brokenDown =>
    simp only [proceed, point]
    exact asks_still c

theorem stop_asks (c : Capture) : c.Asks (c.stop, {}) := by
  unfold stop
  split
  · exact asks_of_silent rfl rfl rfl (.inl ⟨rfl, rfl⟩)
  · split
    · exact asks_of_silent rfl rfl rfl (.inl ⟨rfl, rfl⟩)
    · exact asks_of_silent rfl rfl rfl (.inl ⟨rfl, rfl⟩)
  · exact asks_of_silent rfl rfl rfl (.inl ⟨rfl, rfl⟩)
  · exact asks_still c

theorem join_asks (c : Capture) : c.Asks (c.join.1, {}) := by
  unfold join
  split
  · exact asks_of_silent rfl rfl rfl (.inl ⟨rfl, rfl⟩)
  · exact asks_still c

theorem asked_fresh (chunkSize chunkCount : Nat) (priority : ThreadPriority)
    (requester : Requester) : (fresh chunkSize chunkCount priority requester).asked = [] :=
  if_neg fun begun => begun.2 rfl

theorem step_asks (c : Capture) (event : CaptureEvent) : c.Asks (c.step event) := by
  cases event with
  | proceed => exact c.proceed_asks
  | stop => exact c.stop_asks
  | expire =>
    show c.Asks c.expire
    unfold expire
    split
    · rename_i waiting
      exact lookForGrant_asks waiting
        (asks_of_silent rfl rfl rfl (.inr ⟨rfl, by rw [waiting]; nofun⟩))
    · exact asks_still c
  | letGo =>
    show c.Asks c.letGo
    unfold letGo
    split
    · rename_i requesting _
      exact endRequest_asks requesting _
    · exact asks_still c
  | returned read =>
    show c.Asks (c.returned read)
    unfold returned
    split
    · rename_i free reading
      have begun : c.point ≠ .launched := by rw [reading]; nofun
      split
      · exact asks_of_silent rfl rfl rfl (.inr ⟨rfl, begun⟩)
      · exact asks_of_silent rfl rfl rfl (.inr ⟨rfl, begun⟩)
      · exact asks_of_silent rfl rfl rfl (.inr ⟨rfl, begun⟩)
    · exact asks_still c
  | join =>
    show c.Asks c.join
    unfold join
    split
    · exact asks_of_silent rfl rfl rfl (.inl ⟨rfl, rfl⟩)
    · exact asks_still c
  | wake | take | drain | nextRecord => exact asks_of_silent rfl rfl rfl (.inl ⟨rfl, rfl⟩)

/-! ## Threads that get no further -/

/-- The request of the thread takes it with it. -/
def Breaks (c : Capture) : Prop := ∃ cause?, c.requester.outcome c.priority = .brokeDown cause?

/-- Where a thread stands that cannot get past its request. -/
def IsPenned (c : Capture) : Prop := c.point.isAhead = true ∨ c.point = .brokenDown ∧ c.Breaks

theorem Asks.penned (asks : c.Asks done) (same : done.1.point = c.point) (penned : c.IsPenned) :
    done.1.IsPenned := by
  unfold IsPenned Breaks
  rw [same, asks.requester, asks.priority]
  exact penned

theorem point_stop (c : Capture) : c.stop.point = c.point := by
  unfold stop
  split
  · rfl
  · split
    · rfl
    · rfl
  · rfl
  · rfl

theorem point_join (c : Capture) : c.join.1.point = c.point := by
  unfold join
  split
  · rfl
  · rfl

/-- A step of a thread that cannot get past its request leaves it there, and nothing can be seen of
it. -/
structure StaysPenned (c : Capture) (done : Capture × CaptureReply) : Prop where
  penned : done.1.IsPenned
  state : done.1.state = c.state
  offered : done.2.offered = none

theorem staysPenned_still (penned : c.IsPenned) : c.StaysPenned (c, {}) := ⟨penned, rfl, rfl⟩

/-- A request ends that is held, or takes the thread with it. -/
theorem staysPenned_endRequest (ahead : c.point.isAhead = true) {ends : RequestEnd}
    (stuck : ends = .held ∨ c.requester.outcome c.priority = ends ∧ c.Breaks) :
    c.StaysPenned (c.endRequest ends) := by
  rcases stuck with rfl | ⟨rfl, cause?, breaks⟩
  · exact staysPenned_still (.inl ahead)
  · rw [breaks]
    exact ⟨.inr ⟨rfl, cause?, breaks⟩, rfl, rfl⟩

theorem staysPenned_proceed (penned : c.IsPenned) (elevated : c.priority.isElevated = true)
    (stuck : c.Breaks ∨ c.requester.request c.priority = .held) : c.StaysPenned c.proceed := by
  rcases penned with ahead | ⟨broken, breaks⟩
  · cases point : c.point with
    | launched =>
      simp only [proceed, point, elevated, if_true]
      exact ⟨.inl rfl, rfl, rfl⟩
    | requesting =>
      simp only [proceed, point]
      refine staysPenned_endRequest ahead ?_
      by_cases held : c.requester.request c.priority = .held
      · exact .inl held
      · exact .inr ⟨Requester.outcome_of_unheld held, stuck.resolve_right held⟩
    | _ =>
      rw [point] at ahead
      cases ahead
  · simp only [proceed, broken]
    exact staysPenned_still (.inr ⟨broken, breaks⟩)

/-- Neither its own steps nor what its consumer does free such a thread; only that a held request is
let go can do so. -/
theorem step_penned (penned : c.IsPenned) (elevated : c.priority.isElevated = true) {gate : Bool}
    (stuck : c.Breaks ∨ c.requester.request c.priority = .held ∧ gate = false)
    {event : CaptureEvent}
    (beside : event.isThreads gate = true ∨ event.isConsumers = true ∨
      ∃ read, event = .returned read) : c.StaysPenned (c.step event) := by
  -- such a thread neither waits nor is in a read
  have elsewhere : c.point ≠ .waiting ∧ ∀ free, c.point ≠ .reading free := by
    refine ⟨?_, ?_⟩
    · intro there
      rcases penned with ahead | ⟨broken, -⟩
      · rw [there] at ahead
        cases ahead
      · cases there.symm.trans broken
    · intro free there
      rcases penned with ahead | ⟨broken, -⟩
      · rw [there] at ahead
        cases ahead
      · cases there.symm.trans broken
  cases event with
  | proceed => exact staysPenned_proceed penned elevated (stuck.imp_right And.left)
  | expire =>
    show c.StaysPenned c.expire
    unfold expire
    split
    · rename_i waiting
      exact absurd waiting elsewhere.1
    · exact staysPenned_still penned
  | letGo =>
    show c.StaysPenned c.letGo
    unfold letGo
    split
    · rename_i requesting held
      -- the gate is open, so the request takes the thread with it
      have opened : gate = true := by
        rcases beside with opened | none | ⟨read, same⟩
        · exact opened
        · cases none
        · cases same
      have breaks : c.Breaks :=
        stuck.resolve_right fun shut => Bool.false_ne_true (shut.2.symm.trans opened)
      exact staysPenned_endRequest (by rw [requesting]; rfl)
        (.inr ⟨Requester.outcome_of_held held, breaks⟩)
    · exact staysPenned_still penned
  | returned read =>
    show c.StaysPenned (c.returned read)
    unfold returned
    split
    · rename_i free reading
      exact absurd reading (elsewhere.2 free)
    · exact staysPenned_still penned
  | wake | take | drain | nextRecord => exact ⟨penned, rfl, rfl⟩
  | stop | join =>
    rcases beside with none | none | ⟨read, same⟩
    · cases none
    · cases none
    · cases same

/-! ## Other answers -/

/-- The thread with somebody else to ask. -/
def reask (c : Capture) (requester : Requester) : Capture := { c with requester }

/-- The request of the thread, if it makes one, is answered. -/
def Answered (c : Capture) : Prop :=
  c.priority.isElevated = true → ∃ answer, c.requester.request c.priority = .answered answer

/-- A thread with somebody else to ask does the same, but for what is logged. -/
structure Mirrors (requester : Requester) (first second : Capture × CaptureReply) : Prop where
  capture : second.1 = first.1.reask requester
  reply : second.2 = { first.2 with notices := second.2.notices }

theorem mirrors_reask (requester : Requester) (done : Capture × CaptureReply) :
    Mirrors requester done (done.1.reask requester, done.2) := ⟨rfl, rfl⟩

theorem lookForGrant_reask (c expired : Capture) (requester : Requester) :
    (c.reask requester).lookForGrant (expired.reask requester) =
      ((c.lookForGrant expired).1.reask requester, (c.lookForGrant expired).2) := by
  unfold lookForGrant
  dsimp only [reask]
  split
  · rfl
  · rfl

theorem publishRecord_reask (c : Capture) (outcome : ReadOutcome) (requester : Requester) :
    (c.reask requester).publishRecord outcome =
      ((c.publishRecord outcome).1.reask requester, (c.publishRecord outcome).2) := by
  unfold publishRecord
  dsimp only [reask]
  split
  · rfl
  · rfl

theorem returned_reask (c : Capture) (read : DeviceRead) (requester : Requester) :
    (c.reask requester).returned read =
      ((c.returned read).1.reask requester, (c.returned read).2) := by
  unfold returned
  dsimp only [reask]
  split
  · split
    · rfl
    · rfl
    · rfl
  · rfl

theorem request_mirrors {requester : Requester} {one other : Except PriorityError Unit}
    (first : c.requester.request c.priority = .answered one)
    (second : requester.request c.priority = .answered other) :
    Mirrors requester c.request (c.reask requester).request := by
  have reasked : (c.reask requester).requester.request (c.reask requester).priority =
      .answered other := second
  unfold request
  simp only [first, reasked]
  cases one with
  | ok =>
    cases other with
    | ok => exact ⟨rfl, rfl⟩
    | error => exact ⟨rfl, rfl⟩
  | error =>
    cases other with
    | ok => exact ⟨rfl, rfl⟩
    | error => exact ⟨rfl, rfl⟩

/-- A thread that makes no request that is not answered. -/
structure Willing (c : Capture) : Prop where
  answered : c.Answered
  elevated : c.point = .requesting → c.priority.isElevated = true

theorem Willing.step (h : c.Willing) (event : CaptureEvent) : (c.step event).1.Willing := by
  have asks := c.step_asks event
  refine ⟨?_, ?_⟩
  · rw [Answered, asks.requester, asks.priority]
    exact h.answered
  · intro requesting
    rw [asks.priority]
    exact (asks.elevated requesting).elim h.elevated id

theorem Willing.run (h : c.Willing) (events : List CaptureEvent) : (c.run events).Willing := by
  induction events generalizing c with
  | nil => exact h
  | cons event events ih => exact ih (h.step event)

theorem Willing.unheld (h : c.Willing) (requesting : c.point = .requesting) :
    c.requester.request c.priority ≠ .held := by
  obtain ⟨answer, answered⟩ := h.answered (h.elevated requesting)
  simp [answered]

variable {requester : Requester}

theorem proceed_mirrors (first : c.Willing) (second : (c.reask requester).Willing) :
    Mirrors requester c.proceed (c.reask requester).proceed := by
  cases point : c.point with
  | requesting =>
    have reasked : (c.reask requester).point = .requesting := point
    obtain ⟨one, first⟩ := first.answered (first.elevated point)
    obtain ⟨other, second⟩ := second.answered (second.elevated reasked)
    simp only [proceed, point, reasked]
    exact request_mirrors first second
  | launched =>
    have reasked : (c.reask requester).point = .launched := point
    simp only [proceed, point, reasked]
    show Mirrors requester _ (if c.priority.isElevated then _ else _)
    split
    · exact ⟨rfl, rfl⟩
    · exact ⟨rfl, rfl⟩
  | waiting =>
    have reasked : (c.reask requester).point = .waiting := point
    simp only [proceed, point, reasked]
    rw [lookForGrant_reask]
    exact mirrors_reask requester _
  | recording outcome =>
    have reasked : (c.reask requester).point = .recording outcome := point
    simp only [proceed, point, reasked]
    rw [publishRecord_reask]
    exact mirrors_reask requester _
  | entering | testing | granted | storing | signalling | leaving | reading | ended | brokenDown =>
    have reasked : (c.reask requester).point = c.point := rfl
    rw [point] at reasked
    simp only [proceed, point, reasked]
    exact ⟨rfl, rfl⟩

theorem expire_reask (c : Capture) (requester : Requester) :
    (c.reask requester).expire = (c.expire.1.reask requester, c.expire.2) := by
  have reasked : (c.reask requester).point = c.point := rfl
  unfold expire
  rw [reasked]
  split
  · exact lookForGrant_reask c { c with
      point := .testing
      tally := { c.tally with idleWaits := c.tally.idleWaits + 1 } } requester
  · rfl

theorem stop_reask (c : Capture) (requester : Requester) :
    (c.reask requester).stop = c.stop.reask requester := by
  unfold stop
  dsimp only [reask]
  split
  · rfl
  · by_cases running : c.state = .running
    · simp only [running, if_true]
    · simp only [running, if_false]
  · rfl
  · rfl

theorem join_reask (c : Capture) (requester : Requester) :
    (c.reask requester).join = (c.join.1.reask requester, c.join.2) := by
  unfold join
  dsimp only [reask]
  split
  · rfl
  · rfl

/-- Only a request shows whom the thread asks; if it is answered, only the log does. -/
theorem step_mirrors (first : c.Willing) (second : (c.reask requester).Willing)
    (event : CaptureEvent) :
    Mirrors requester (c.step event) ((c.reask requester).step event) := by
  cases event with
  | proceed => exact proceed_mirrors first second
  | expire =>
    show Mirrors requester c.expire (c.reask requester).expire
    rw [expire_reask]
    exact mirrors_reask requester _
  | letGo =>
    -- neither thread is held
    have still : ∀ {d : Capture}, d.Willing → d.letGo = (d, {}) := by
      intro d willing
      unfold letGo
      split
      · rename_i requesting held
        exact absurd held (willing.unheld requesting)
      · rfl
    show Mirrors requester c.letGo (c.reask requester).letGo
    rw [still first, still second]
    exact mirrors_reask requester _
  | returned read =>
    show Mirrors requester (c.returned read) ((c.reask requester).returned read)
    rw [returned_reask]
    exact mirrors_reask requester _
  | stop =>
    show Mirrors requester (c.stop, {}) ((c.reask requester).stop, {})
    rw [stop_reask]
    exact mirrors_reask requester (c.stop, {})
  | join =>
    show Mirrors requester c.join (c.reask requester).join
    rw [join_reask]
    exact mirrors_reask requester _
  | wake mask => exact mirrors_reask requester (c.step (.wake mask))
  | take mask => exact mirrors_reask requester (c.step (.take mask))
  | drain most => exact mirrors_reask requester (c.step (.drain most))
  | nextRecord => exact mirrors_reask requester (c.step .nextRecord)

end Capture

end AudioCapture
