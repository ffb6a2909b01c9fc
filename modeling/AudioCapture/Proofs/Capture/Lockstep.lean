import AudioCapture.Proofs.Capture.Accounts
import AudioCapture.Proofs.Capture.ThreadControl

/-!
# Chunks in step with their outcomes

A consumer that asks for one chunk at a time, waits for it, takes one outcome and reads gets in
each of its cycles the outcome of that cycle's read, and finds the bytes of that read
(`cycles_in_step`). At any time the turn is with one of the two sides or under way between them in
one of the signal bits: the stages of a cycle (`Stage`) say which. The invariant is `InStep`.

* `hands_step` — what a step of the thread means for the turn;
* `InStep.thread`, `InStep.consume` — the invariant.
-/

namespace AudioCapture

/-! ## A consumer with a fixed pace -/

/-- What the capture thread does in a transport that nobody stops. -/
inductive ThreadStep where
  | proceed
  /-- The time of its wait is up. -/
  | expire
  /-- The request for a priority it is held in is let go. -/
  | letGo
  /-- The read it is in comes back. -/
  | comeBack (read : DeviceRead)

def ThreadStep.event : ThreadStep → CaptureEvent
  | proceed => .proceed
  | expire => .expire
  | letGo => .letGo
  | comeBack read => .returned read

/-- What the consumer does next in its cycle. -/
inductive PacePoint where
  /-- It asks for a chunk. -/
  | requesting
  /-- It looks whether there are new data, until there are. -/
  | awaiting
  /-- It takes an outcome. -/
  | taking
  /-- It reads, and its cycle ends. -/
  | draining
  deriving DecidableEq, Repr

inductive PacedEvent where
  | thread (step : ThreadStep)
  /-- The consumer does what it does next; `most` is how many bytes it reads at most if it reads. -/
  | consumer (most : Nat)

/-- What a consumer gets to see in one cycle. -/
structure Cycle where
  record : Option ReadOutcome
  /-- What it could have read at the end. -/
  readable : List UInt8
  /-- The counts at the end. -/
  diagnostics : Diagnostics

/-- A transport and its history with a consumer that goes round its cycle. -/
structure Paced where
  history : Observed
  point : PacePoint := .requesting
  /-- The outcome that was taken in the cycle under way. -/
  record : Option ReadOutcome := none
  /-- The cycles that are over, the oldest first. -/
  cycles : List Cycle := []

namespace Paced

def consume (p : Paced) (most : Nat) : Paced :=
  match p.point with
  | .requesting => { p with history := p.history.step (.wake .spaceReady), point := .awaiting }
  | .awaiting =>
      { p with
        history := p.history.step (.take .dataReady)
        point := if p.history.capture.takeData.2 then .taking else .awaiting }
  | .taking =>
      { p with
        history := p.history.step .nextRecord
        point := .draining
        record := p.history.capture.nextRecord.2 }
  | .draining =>
      let next := p.history.step (.drain most)
      { p with
        history := next
        point := .requesting
        cycles := p.cycles ++ [{
          record := p.record
          readable := p.history.capture.data.ring.contents
          diagnostics := next.capture.diagnostics }] }

def step (p : Paced) : PacedEvent → Paced
  | .thread step => { p with history := p.history.step step.event }
  | .consumer most => p.consume most

def run (p : Paced) (events : List PacedEvent) : Paced := events.foldl step p

end Paced

/-- A transport whose thread has just been launched, with a consumer about to begin. -/
def Capture.paced (c : Capture) (events : List PacedEvent) : Paced :=
  Paced.run { history := { capture := c } } events

/-- What the cycle with a number, from zero on, has to show of the iteration with that number. -/
structure Cycle.Shows (cycle : Cycle) (number : Nat) (i : Iteration) : Prop where
  record : ∃ ending outcome, i.ending = some ending ∧ ending.outcome? = some outcome ∧
    cycle.record = some outcome
  readable : i.published <:+ cycle.readable
  iterations : cycle.diagnostics.iterations = .ofNat (number + 1)
  statusDrops : cycle.diagnostics.statusDrops = 0

/-! ## What the thread does with the turn -/

namespace Capture

variable {c : Capture}

theorem lookForGrant_fst (c expired : Capture) :
    (c.lookForGrant expired).1 =
      if c.data.signals.notFull
      then { c with data := (c.data.take .spaceReady).1, point := .granted } else expired := by
  have sees : (c.data.take .spaceReady).2.contains .spaceReady = c.data.signals.notFull :=
    c.data.signals.sees_space
  unfold lookForGrant
  dsimp only
  rw [sees]
  split <;> rfl

theorem endRequest_quiet (ungranted : c.point ≠ .granted) (ends : RequestEnd) :
    (c.endRequest ends).1.data = c.data ∧ (c.endRequest ends).1.point ≠ .granted := by
  obtain ⟨point, notices, same, there⟩ := c.endRequest_eq ends
  rw [same]
  rcases there with rfl | rfl | rfl
  · exact ⟨rfl, by simp⟩
  · exact ⟨rfl, ungranted⟩
  · exact ⟨rfl, by simp⟩

/-- The steps of the thread outside its iterations, but for the look for a grant. -/
theorem proceed_quiet (here : c.point.isBetween = true) (ungranted : c.point ≠ .granted)
    (unwaiting : c.point ≠ .waiting) :
    c.proceed.1.data = c.data ∧ c.proceed.1.point ≠ .granted := by
  cases point : c.point with
  | launched =>
    simp only [proceed, point]
    split
    · exact ⟨rfl, by simp⟩
    · exact ⟨rfl, by simp⟩
  | requesting =>
    simp only [proceed, point]
    exact endRequest_quiet ungranted _
  | testing =>
    simp only [proceed, point]
    refine ⟨trivial, ?_⟩
    split
    · simp
    · simp
  | entering | leaving =>
    simp only [proceed, point]
    exact ⟨trivial, by simp⟩
  | ended =>
    simp only [proceed, point]
    exact ⟨trivial, by simp⟩
  | granted => exact absurd point ungranted
  | waiting => exact absurd point unwaiting
  | reading | storing | recording | signalling | brokenDown =>
    rw [point] at here
    cases here

end Capture

namespace Observed

/-- The thread is in no iteration and has taken no grant for one. -/
def Rests (w : Observed) : Prop := w.current = none ∧ w.capture.point ≠ .granted

/-- What a step of the thread means for whose turn it is. -/
inductive Hands (w : Observed) : Observed → Prop
  /-- The turn stays where it is. -/
  | still (c : Capture) : c.data.signals = w.capture.data.signals →
      (c.point = .granted ↔ w.capture.point = .granted) → Hands w { w with capture := c }
  /-- The thread takes a grant. -/
  | granted (c : Capture) : w.capture.data.signals.notFull = true →
      c.data.signals = w.capture.data.signals.diff .spaceReady → c.point = .granted →
      Hands w { w with capture := c }
  /-- It works on an iteration that it begins or has begun. -/
  | worked (c : Capture) (i : Iteration) : ¬ w.Rests →
      c.data.signals = w.capture.data.signals → i.recorded = none →
      Hands w { w with capture := c, current := some i }
  | recorded (c : Capture) (i : Iteration) : w.current = some i → i.recorded = none →
      c.data.signals = w.capture.data.signals →
      Hands w { w with
        capture := c
        current := some (i.record (decide (0 < w.capture.records.free))) }
  /-- It is done with the iteration. -/
  | signalled (i : Iteration) : w.current = some i →
      Hands w { w with
        capture := { w.capture with data := w.capture.data.wake .dataReady, point := .testing }
        past := w.past ++ [i]
        current := none }

variable {w : Observed}

theorem not_rests_of_current {i : Iteration} (current : w.current = some i) : ¬ w.Rests := by
  intro rests
  exact absurd (current.symm.trans rests.1) nofun

theorem Hands.same (w : Observed) : w.Hands w := .still w.capture rfl Iff.rfl

/-- A look for a grant of a thread that otherwise goes on without one. -/
theorem hands_lookForGrant {expired : Capture} (ungranted : w.capture.point ≠ .granted)
    (signals : expired.data.signals = w.capture.data.signals) (point : expired.point ≠ .granted) :
    w.Hands { w with capture := (w.capture.lookForGrant expired).1 } := by
  rw [Capture.lookForGrant_fst]
  split
  · rename_i notFull
    exact .granted _ notFull rfl rfl
  · exact .still _ signals (iff_of_false point ungranted)

/-- The thread goes on with the next of its steps outside its iterations. -/
theorem hands_between (here : w.capture.point.isBetween = true)
    (ungranted : w.capture.point ≠ .granted) : w.Hands (w.step .proceed) := by
  rw [proceed_of_between here ungranted]
  by_cases waiting : w.capture.point = .waiting
  · have looks : w.capture.proceed = w.capture.lookForGrant w.capture := by
      simp only [Capture.proceed, waiting]
    rw [looks]
    exact hands_lookForGrant ungranted rfl ungranted
  · obtain ⟨data, quiet⟩ := Capture.proceed_quiet here ungranted waiting
    exact .still _ (congrArg Queue.signals data) (iff_of_false quiet ungranted)

theorem hands_proceed (standing : w.Standing) : w.Hands (w.step .proceed) := by
  have stands := standing.stands
  by_cases between : w.capture.point.isBetween = true ∧ w.capture.point ≠ .granted
  · exact hands_between between.1 between.2
  cases point : w.capture.point with
  | granted =>
    rw [proceed_of_granted point]
    exact .worked _ _ (fun rests => rests.2 point) rfl rfl
  | storing free reported =>
    obtain ⟨count, -, current⟩ := stands.storing point
    rw [proceed_of_storing point, current]
    exact .worked _ _ (not_rests_of_current current) rfl rfl
  | recording outcome =>
    obtain ⟨i, -, current, -, -, -, unrecorded⟩ := stands.recording point
    rw [proceed_of_recording point, current]
    refine .recorded _ i current unrecorded ?_
    rw [Capture.publishRecord_fst]
  | signalling =>
    obtain ⟨i, current, -⟩ := stands.signalling point
    have all : w.iterations = w.past ++ [i] := by rw [iterations, current, Option.toList_some]
    rw [proceed_of_signalling point, all]
    exact .signalled i current
  | reading free =>
    rw [proceed_of_stuck (.inl ⟨free, point⟩)]
    exact .same w
  | brokenDown =>
    rw [proceed_of_stuck (.inr point)]
    exact .same w
  | launched | requesting | entering | testing | waiting | leaving | ended =>
    simp [point, CapturePoint.isBetween] at between

theorem hands_comeBack (standing : w.Standing) (read : DeviceRead) :
    w.Hands (w.step (.returned read)) := by
  cases point : w.capture.point with
  | reading free =>
    have current := standing.stands.reading point
    have data : (w.capture.returned read).1.data = w.capture.data := by
      simp only [Capture.returned, point]
      split <;> rfl
    rw [returned_of_reading point, current]
    exact .worked _ _ (not_rests_of_current current) (congrArg Queue.signals data) rfl
  | _ =>
    rw [returned_of_elsewhere (by simp [point])]
    exact .same w

theorem hands_expire (w : Observed) : w.Hands (w.step .expire) := by
  rw [step_of_aside rfl (Capture.aside_expire w.capture)]
  by_cases waiting : w.capture.point = .waiting
  · have ungranted : w.capture.point ≠ .granted := by
      rw [waiting]
      simp
    simp only [Capture.step, Capture.expire, waiting]
    exact hands_lookForGrant ungranted rfl (by simp)
  · have still : w.capture.step .expire = (w.capture, {}) := by
      simp [Capture.step, Capture.expire]
    rw [still]
    exact .same w

theorem hands_letGo (w : Observed) : w.Hands (w.step .letGo) := by
  rw [step_of_aside rfl (Capture.aside_letGo w.capture)]
  show w.Hands { w with capture := w.capture.letGo.1 }
  unfold Capture.letGo
  split
  · rename_i requesting _
    have ungranted : w.capture.point ≠ .granted := by simp [requesting]
    obtain ⟨data, quiet⟩ := Capture.endRequest_quiet ungranted
      (w.capture.requester.release w.capture.priority)
    exact .still _ (congrArg Queue.signals data) (iff_of_false quiet ungranted)
  · exact .same w

theorem hands_step (standing : w.Standing) (step : ThreadStep) : w.Hands (w.step step.event) := by
  cases step with
  | proceed => exact hands_proceed standing
  | expire => exact hands_expire w
  | letGo => exact hands_letGo w
  | comeBack read => exact hands_comeBack standing read

end Observed

/-! ## Stages of a cycle -/

/-- How far a cycle has come. -/
inductive Stage where
  | idle
  /-- A chunk has been asked for. -/
  | asked
  /-- The thread works on it. -/
  | working
  | answered
  /-- The consumer has seen the answer. -/
  | seen
  /-- It has taken the outcome. -/
  | taken
  deriving DecidableEq, Repr

namespace Stage

def point : Stage → PacePoint
  | idle => .requesting
  | asked | working | answered => .awaiting
  | seen => .taking
  | taken => .draining

def signals : Stage → Signals
  | asked => .spaceReady
  | answered => .dataReady
  | idle | working | seen | taken => {}

/-- How many iterations are over beyond the cycles that are. -/
def ahead : Stage → Nat
  | idle | asked | working => 0
  | answered | seen | taken => 1

/-- How many outcomes were taken beyond one for each cycle that is over. -/
def outcomes : Stage → Nat
  | taken => 1
  | idle | asked | working | answered | seen => 0

end Stage

namespace Paced

/-- The cycles that are over have shown what they have to, and the one under way has come so far. -/
structure InStep (p : Paced) (stage : Stage) : Prop where
  accounted : p.history.Accounted
  slot : p.history.capture.records.capacity = 1
  undropped : ∀ i ∈ p.history.iterations, i.recorded ≠ some false
  point : p.point = stage.point
  signals : p.history.capture.data.signals = stage.signals
  rests : p.history.Rests ↔ stage ≠ .working
  past : p.history.past.length = p.cycles.length + stage.ahead
  taken : p.history.taken.length = p.cycles.length + stage.outcomes
  record : stage = .taken →
    ∀ i, p.history.past[p.cycles.length]? = some i → p.record = i.record?
  /-- The consumer has read no byte of an iteration whose cycle is not over. -/
  drained : p.history.drained <+:
    (p.history.past.take p.cycles.length).flatMap Iteration.published
  cycles : ∀ (number : Nat) (cycle : Cycle), p.cycles[number]? = some cycle →
    ∃ i, p.history.past[number]? = some i ∧ cycle.Shows number i

variable {p : Paced} {stage : Stage}

theorem InStep.standing (h : p.InStep stage) : p.history.Standing := h.accounted.exact.standing

/-- The outcomes of the iterations that are over have all gone into the slot. -/
theorem InStep.outcome (h : p.InStep stage) {i : Iteration} (member : i ∈ p.history.past) :
    ∃ ending outcome, i.ending = some ending ∧ ending.outcome? = some outcome ∧
      i.record? = some outcome := by
  obtain ⟨⟨ending, ended, unbroken, -⟩, ⟨fits, recorded⟩⟩ := h.standing.past i member
  have fit : fits = true := by
    have undropped := h.undropped i (List.mem_append_left _ member)
    cases fits with
    | true => rfl
    | false => exact absurd recorded undropped
  subst fit
  obtain ⟨outcome, came⟩ : ∃ outcome, ending.outcome? = some outcome := by
    cases ending with
    | transferred count => exact ⟨_, rfl⟩
    | failed status => exact ⟨_, rfl⟩
    | brokeDown => exact absurd rfl unbroken
  exact ⟨ending, outcome, ended, came, by simp only [Iteration.record?, ended, recorded, came]⟩

/-- There is one outcome of each of them. -/
theorem InStep.length_records (h : p.InStep stage) :
    (p.history.past.filterMap Iteration.record?).length = p.history.past.length := by
  rw [List.filterMap_length_eq_length]
  intro i member
  obtain ⟨ending, outcome, -, -, recorded⟩ := h.outcome member
  rw [recorded]
  rfl

/-- The slot is empty when an outcome is put there. -/
theorem InStep.room (h : p.InStep .working) {i : Iteration} (current : p.history.current = some i)
    (unrecorded : i.recorded = none) : 0 < p.history.capture.records.free := by
  have outcomes := congrArg List.length h.accounted.outcomes
  have none : i.record? = none := by
    unfold Iteration.record?
    rw [unrecorded]
    cases i.ending <;> rfl
  simp only [Observed.iterations, current, Option.toList_some, List.filterMap_append,
    List.length_append, h.length_records, h.past, h.taken, Stage.ahead, Stage.outcomes] at outcomes
  simp only [List.filterMap_cons, none, List.filterMap_nil, List.length_nil] at outcomes
  have capacity := h.slot
  rw [h.standing.records.free_eq]
  omega

/-- Only the thread that works on a chunk is not at rest. -/
theorem InStep.eq_working (h : p.InStep stage) (busy : ¬ p.history.Rests) : stage = .working :=
  Decidable.byContradiction fun other => busy (h.rests.2 other)

/-- The thread goes on with its work. -/
theorem InStep.work (h : p.InStep .working) {c : Capture} {i : Iteration}
    (accounted : Observed.Accounted { p.history with capture := c, current := some i })
    (slot : c.records.capacity = 1) (signals : c.data.signals = p.history.capture.data.signals)
    (fits : i.recorded ≠ some false) :
    InStep { p with history := { p.history with capture := c, current := some i } } .working := by
  have busy : ¬ Observed.Rests { p.history with capture := c, current := some i } :=
    Observed.not_rests_of_current rfl
  refine ⟨accounted, slot, ?_, h.point, signals.trans h.signals,
    iff_of_false busy fun other => other rfl, h.past, h.taken, nofun, h.drained, h.cycles⟩
  intro j member
  rcases List.mem_append.1 member with old | same
  · exact h.undropped j (List.mem_append_left _ old)
  · rw [List.mem_singleton.1 same]
    exact fits

theorem InStep.thread (h : p.InStep stage) (step : ThreadStep) :
    ∃ next, (p.step (.thread step)).InStep next := by
  have move := p.history.step_move step.event
  have accounted := h.accounted.move move
  have slot := move.slot.trans h.slot
  have hands := Observed.hands_step h.standing step
  show ∃ next, InStep { p with history := p.history.step step.event } next
  generalize p.history.step step.event = w at accounted slot hands ⊢
  cases hands with
  | still c signals granted =>
    exact ⟨stage, accounted, slot, h.undropped, h.point, signals.trans h.signals,
      (and_congr_right fun _ => not_congr granted).trans h.rests, h.past, h.taken, h.record,
      h.drained, h.cycles⟩
  | granted c notFull signals point =>
    have asked : stage = .asked := by
      rw [h.signals] at notFull
      cases stage with
      | asked => rfl
      | _ => cases notFull
    subst asked
    have busy : ¬ Observed.Rests { p.history with capture := c } := fun rests => rests.2 point
    refine ⟨.working, accounted, slot, h.undropped, h.point, ?_,
      iff_of_false busy fun other => other rfl, h.past, h.taken, by simp, h.drained, h.cycles⟩
    rw [signals, h.signals]
    rfl
  | worked c i busy signals unrecorded =>
    obtain rfl := h.eq_working busy
    exact ⟨.working, h.work accounted slot signals (by simp [unrecorded])⟩
  | recorded c i current unrecorded signals =>
    obtain rfl := h.eq_working (Observed.not_rests_of_current current)
    have fits : decide (0 < p.history.capture.records.free) = true :=
      decide_eq_true (h.room current unrecorded)
    rw [fits] at accounted ⊢
    exact ⟨.working, h.work accounted slot signals (by simp [Iteration.record])⟩
  | signalled i current =>
    obtain rfl := h.eq_working (Observed.not_rests_of_current current)
    have level : p.history.past.length = p.cycles.length := h.past
    have all : p.history.iterations = p.history.past ++ [i] := by
      rw [Observed.iterations, current, Option.toList_some]
    refine ⟨.answered, accounted, slot, ?_, h.point, ?_, iff_of_true ⟨rfl, by simp⟩ (by simp), ?_,
      h.taken, by simp, ?_, ?_⟩
    · show ∀ j ∈ (p.history.past ++ [i]) ++ [], j.recorded ≠ some false
      rw [List.append_nil, ← all]
      exact h.undropped
    · show p.history.capture.data.signals.union .dataReady = _
      rw [h.signals]
      rfl
    · show (p.history.past ++ [i]).length = p.cycles.length + 1
      rw [List.length_append, level, List.length_singleton]
    · show _ <+: ((p.history.past ++ [i]).take p.cycles.length).flatMap Iteration.published
      rw [List.take_append_of_le_length (Nat.le_of_eq level.symm)]
      exact h.drained
    · -- the iterations that are over stay as they are
      intro number cycle there
      obtain ⟨j, here, shows⟩ := h.cycles number cycle there
      have below := (List.getElem?_eq_some_iff.1 here).1
      exact ⟨j, (List.getElem?_append_left below).trans here, shows⟩

/-! ### Steps of the consumer -/

/-- Only the signals change, and with them the stage. -/
theorem InStep.resignal (h : p.InStep stage) (next : Stage) {event : CaptureEvent}
    (same : p.history.step event = { p.history with
      capture := { p.history.capture with
        data := { p.history.capture.data with signals := next.signals } } })
    (ahead : next.ahead = stage.ahead) (outcomes : next.outcomes = stage.outcomes)
    (working : next = .working ↔ stage = .working) (untaken : next ≠ .taken) :
    InStep { p with history := p.history.step event, point := next.point } next := by
  have accounted := h.accounted.move (p.history.step_move event)
  rw [same] at accounted ⊢
  refine ⟨accounted, h.slot, h.undropped, rfl, rfl, h.rests.trans (not_congr working.symm), ?_, ?_,
    fun taken => absurd taken untaken, h.drained, h.cycles⟩
  · rw [ahead]
    exact h.past
  · rw [outcomes]
    exact h.taken

/-- The iteration of a cycle whose answer has come is the last that is over. -/
theorem InStep.last (h : p.InStep stage) (ahead : stage.ahead = 1) :
    p.history.current = none ∧
      ∃ before i, p.history.past = before ++ [i] ∧ before.length = p.cycles.length ∧
        p.history.past[p.cycles.length]? = some i := by
  have unworking : stage ≠ .working := by
    rintro rfl
    cases ahead
  have level := h.past
  rw [ahead] at level
  refine ⟨(h.rests.2 unworking).1, ?_⟩
  rcases List.eq_nil_or_concat p.history.past with none | ⟨before, i, all⟩
  · rw [none] at level
    cases level
  · rw [List.concat_eq_append] at all
    rw [all, List.length_append] at level
    have shorter : before.length = p.cycles.length := Nat.succ.inj level
    refine ⟨before, i, all, shorter, ?_⟩
    rw [all, ← shorter]
    exact List.getElem?_concat_length

theorem InStep.take (h : p.InStep .seen) :
    InStep { p with
      history := p.history.step .nextRecord
      point := .draining
      record := p.history.capture.nextRecord.2 } .taken := by
  have move := p.history.step_move .nextRecord
  have accounted := h.accounted.move move
  have slot := move.slot.trans h.slot
  obtain ⟨idle, before, i, past, level, here⟩ := h.last rfl
  obtain ⟨ending, outcome, -, -, recorded⟩ := h.outcome (i := i) (by simp [past])
  -- what was taken are the outcomes of the iterations before, so the last is in the slot
  have outcomes := h.accounted.outcomes
  have count := h.length_records
  rw [past, List.filterMap_append, List.length_append, List.length_append] at count
  simp only [Observed.iterations, idle, past, Option.toList_none, List.append_nil,
    List.filterMap_append, List.filterMap_cons, List.filterMap_nil, recorded] at outcomes count
  have taken : p.history.taken.length = (before.filterMap Iteration.record?).length := by
    rw [h.taken, ← level]
    exact (Nat.succ.inj count).symm
  have contents := (List.append_inj outcomes taken).2
  have got : p.history.capture.nextRecord.2 = some outcome := by
    show p.history.capture.records.readOne.2 = _
    rw [h.standing.records.readOne_snd, contents]
    rfl
  rw [Observed.step_nextRecord] at accounted slot ⊢
  have elsewhere : Stage.seen ≠ .working ↔ Stage.taken ≠ .working := by simp
  refine ⟨accounted, slot, h.undropped, rfl, h.signals, h.rests.trans elsewhere, h.past, ?_, ?_,
    h.drained, h.cycles⟩
  · show (p.history.taken ++ p.history.capture.nextRecord.2.toList).length = p.cycles.length + 1
    rw [got, List.length_append, h.taken]
    rfl
  · intro _ j last
    show p.history.capture.nextRecord.2 = j.record?
    change p.history.past[p.cycles.length]? = some j at last
    rw [here] at last
    cases last
    rw [got, recorded]

/-- What a consumer gets to see in the cycle under way, if it ends now. -/
theorem InStep.shows (h : p.InStep .taken) :
    ∃ i, p.history.past[p.cycles.length]? = some i ∧
      Cycle.Shows {
        record := p.record
        readable := p.history.capture.data.ring.contents
        diagnostics := p.history.capture.diagnostics } p.cycles.length i := by
  obtain ⟨idle, before, i, past, level, here⟩ := h.last rfl
  have all : p.history.iterations = p.history.past := by
    rw [Observed.iterations, idle]
    exact List.append_nil _
  refine ⟨i, here, ?_, ?_, ?_, ?_⟩
  · obtain ⟨ending, outcome, ended, came, recorded⟩ := h.outcome (i := i) (by simp [past])
    exact ⟨ending, outcome, ended, came, (h.record rfl i here).trans recorded⟩
  · -- no byte of the iteration has been read, so what is left ends with them
    obtain ⟨rest, drained⟩ := h.drained
    have stream := h.accounted.exact.stream
    rw [past, List.take_append_of_le_length (Nat.le_of_eq level.symm), ← level,
      List.take_length] at drained
    rw [all, past, List.flatMap_append, List.flatMap_singleton, ← drained, List.append_assoc]
      at stream
    rw [List.append_cancel_left stream]
    exact List.suffix_append rest i.published
  · have counted := (congrArg Tally.iterations h.accounted.counted).trans
      (Iteration.total_iterations _)
    show UInt64.ofNat p.history.capture.tally.worked.iterations = _
    rw [counted, all, h.past]
    rfl
  · -- as many outcomes went into the slot as there were iterations
    have counted := congrArg Tally.statusDrops h.accounted.counted
    have balance := (Iteration.balances_total h.standing.past).outcomes
    rw [Iteration.total_iterations, Iteration.total_statusPublished, h.length_records] at balance
    show UInt64.ofNat p.history.capture.tally.worked.statusDrops = _
    rw [counted, all, show (Iteration.total p.history.past).statusDrops = 0 by omega]
    rfl

theorem InStep.drain (h : p.InStep .taken) (most : Nat) :
    InStep { p with
      history := p.history.step (.drain most)
      point := .requesting
      cycles := p.cycles ++ [{
        record := p.record
        readable := p.history.capture.data.ring.contents
        diagnostics := (p.history.step (.drain most)).capture.diagnostics }] } .idle := by
  obtain ⟨i, here, shows⟩ := h.shows
  have move := p.history.step_move (.drain most)
  have accounted := h.accounted.move move
  have slot := move.slot.trans h.slot
  have more : ∀ cycle, (p.cycles ++ [cycle]).length = p.history.past.length := by
    intro cycle
    rw [List.length_append, h.past]
    rfl
  rw [Observed.step_drain] at accounted slot ⊢
  refine ⟨accounted, slot, h.undropped, rfl, h.signals, h.rests.trans (iff_of_true nofun nofun),
    (more _).symm, ?_, nofun, ?_, ?_⟩
  · show p.history.taken.length = (p.cycles ++ [_]).length
    rw [h.taken, List.length_append]
    rfl
  · -- all iterations that are over now have a cycle that is over
    show _ <+: (p.history.past.take (p.cycles ++ [_]).length).flatMap Iteration.published
    rw [more, List.take_length]
    refine ⟨_, accounted.exact.stream.trans ?_⟩
    show (p.history.past ++ p.history.current.toList).flatMap Iteration.published = _
    rw [(h.last rfl).1, Option.toList_none, List.append_nil]
  · intro number cycle there
    change (p.cycles ++ [_])[number]? = some cycle at there
    rcases Nat.lt_or_ge number p.cycles.length with old | new
    · rw [List.getElem?_append_left old] at there
      exact h.cycles number cycle there
    · have below := (List.getElem?_eq_some_iff.1 there).1
      rw [List.length_append, List.length_singleton] at below
      obtain rfl : number = p.cycles.length := by omega
      rw [List.getElem?_concat_length] at there
      cases there
      exact ⟨i, here, shows⟩

theorem InStep.consume (h : p.InStep stage) (most : Nat) :
    ∃ next, (p.consume most).InStep next := by
  have word : p.history.capture.data.signals = stage.signals := h.signals
  have sees : p.history.capture.takeData.2 = p.history.capture.data.signals.notEmpty :=
    p.history.capture.data.signals.sees_data
  unfold Paced.consume
  dsimp only
  rw [h.point, sees, word]
  cases stage with
  | idle =>
    refine ⟨.asked, h.resignal .asked ?_ rfl rfl (iff_of_false nofun nofun) nofun⟩
    rw [Observed.step_wake, Capture.wake, Queue.wake, word]
    rfl
  | asked =>
    refine ⟨.asked, h.resignal .asked ?_ rfl rfl Iff.rfl nofun⟩
    rw [Observed.step_take, Capture.take, Queue.take, word]
    rfl
  | working =>
    refine ⟨.working, h.resignal .working ?_ rfl rfl Iff.rfl nofun⟩
    rw [Observed.step_take, Capture.take, Queue.take, word]
    rfl
  | answered =>
    refine ⟨.seen, h.resignal .seen ?_ rfl rfl (iff_of_false nofun nofun) nofun⟩
    rw [Observed.step_take, Capture.take, Queue.take, word]
    rfl
  | seen => exact ⟨.taken, h.take⟩
  | taken => exact ⟨.idle, h.drain most⟩

/-! ### Runs -/

theorem InStep.step (h : p.InStep stage) (event : PacedEvent) :
    ∃ next, (p.step event).InStep next := by
  cases event with
  | thread step => exact h.thread step
  | consumer most => exact h.consume most

theorem InStep.run (h : p.InStep stage) (events : List PacedEvent) :
    ∃ next, (p.run events).InStep next := by
  induction events generalizing p stage with
  | nil => exact ⟨stage, h⟩
  | cons event events ih =>
    obtain ⟨next, after⟩ := h.step event
    exact ih after

variable {chunkSize chunkCount : Nat}

theorem inStep_fresh (positive : 0 < chunkSize * chunkCount) (priority : ThreadPriority)
    (requester : Requester) :
    InStep { history := { capture := .fresh chunkSize chunkCount priority requester } } .idle where
  accounted := Observed.accounted_fresh positive priority requester
  slot := rfl
  undropped := nofun
  point := rfl
  signals := rfl
  rests := iff_of_true ⟨rfl, nofun⟩ nofun
  past := rfl
  taken := rfl
  record := nofun
  drained := List.prefix_rfl
  cycles := nofun

end Paced

/-! ## The pairing -/

namespace Capture

/-- A thread that has not taken a grant begins no read. -/
theorem offered_of_ungranted {c : Capture} (ungranted : c.point ≠ .granted)
    (step : ThreadStep) : (c.step step.event).2.offered = none := by
  have move := c.step_control step.event
  cases offered : (c.step step.event).2.offered with
  | none => rfl
  | some free =>
    rw [offered] at move
    exact absurd move.granted ungranted

end Capture

/-- **Lock-step**: whatever the device does and however the steps of the thread fall between
those of a consumer that asks for a chunk, waits until it is there, takes one outcome and reads as
much as it likes, every cycle gets the outcome of the read with its number, finds all bytes of that
read among those that can be read, and ends when there have been as many iterations as cycles and
no outcome was dropped. But for the time that the consumer waits, no read begins. -/
theorem Capture.cycles_in_step {chunkSize chunkCount : Nat} (positive : 0 < chunkSize * chunkCount)
    (priority : ThreadPriority) (requester : Requester) (events : List PacedEvent) :
    let p := (fresh chunkSize chunkCount priority requester).paced events
    (∀ (number : Nat) (cycle : Cycle), p.cycles[number]? = some cycle →
        ∃ i, p.history.iterations[number]? = some i ∧ cycle.Shows number i) ∧
      (p.point ≠ .awaiting →
        ∀ step : ThreadStep, (p.history.capture.step step.event).2.offered = none) := by
  intro p
  obtain ⟨stage, inStep⟩ := (Paced.inStep_fresh positive priority requester).run events
  refine ⟨?_, ?_⟩
  · intro number cycle there
    obtain ⟨i, past, shows⟩ := inStep.cycles number cycle there
    have below := (List.getElem?_eq_some_iff.1 past).1
    exact ⟨i, (List.getElem?_append_left below).trans past, shows⟩
  · intro elsewhere
    have unworking : stage ≠ .working := by
      rintro rfl
      exact elsewhere inStep.point
    exact offered_of_ungranted (inStep.rests.2 unworking).2

/-- Two cycles with a transport of four bytes. The first read reports nine, of which the consumer
leaves one behind; the second fails. The consumer looks for data once before there are any. -/
def PacedEvent.sample : List PacedEvent :=
  let turn (read : DeviceRead) : List PacedEvent :=
    [.thread .proceed, .thread .proceed, .consumer 0, .thread (.comeBack read), .thread .proceed,
      .thread .proceed, .thread .proceed, .thread .proceed]
  [.thread .proceed, .consumer 0, .thread .proceed, .thread .proceed] ++
    turn (.ofBytes [1, 2, 3] 9) ++ [.consumer 0, .consumer 0, .consumer 3, .consumer 0] ++
    turn { ending := .failed .io } ++ [.consumer 0, .consumer 0, .consumer 3]

theorem Capture.cycles_in_step_sample :
    let p := (fresh 2 2 .normal .ignoring).paced PacedEvent.sample
    0 < 2 * 2 ∧
      p.cycles.map (fun cycle => (cycle.record, cycle.readable)) =
        [(some (.ok 9), [1, 2, 3, 0]), (some (.failed .io), [0])] ∧
      ∀ (number : Nat) (cycle : Cycle), p.cycles[number]? = some cycle →
        ∃ i, p.history.iterations[number]? = some i ∧ cycle.Shows number i :=
  ⟨by decide, by decide, (cycles_in_step (by decide) .normal .ignoring PacedEvent.sample).1⟩

end AudioCapture
