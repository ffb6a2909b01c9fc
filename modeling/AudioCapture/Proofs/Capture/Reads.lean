import AudioCapture.Proofs.Capture.ByteStream
import AudioCapture.Proofs.Capture.ThreadControl

/-!
# The reads of a capture

What passed between a capture thread and its device, read by read. The buffer is that of the thread
after all reads that have come back (`Paired.buffer`), and each iteration whose read has come back
goes with the read of the same number (`Paired.read`).

* `Capture.buffer_step` — nothing but a read that comes back changes the buffer;
* `paired_history` — reads and iterations, along every run.
-/

namespace AudioCapture

/-- A read of the device that has come back: the room it was offered, what it made of the buffer
and how it ended. -/
structure Exchange where
  room : Nat
  fill : ReadBuffer → ReadBuffer
  ending : ReadEnd

def DeviceRead.offered (read : DeviceRead) (room : Nat) : Exchange := ⟨room, read.fill, read.ending⟩

namespace Exchange

/-- The buffer as a read leaves it. -/
def leave (read : Exchange) (buffer : ReadBuffer) : ReadBuffer := buffer.within read.room read.fill

/-- The buffer after several reads. -/
def leaveAll (reads : List Exchange) (buffer : ReadBuffer) : ReadBuffer :=
  reads.foldl (fun buffer read => read.leave buffer) buffer

/-- What an iteration keeps of each of several reads: the room, the end, and the buffer. -/
def traces : List Exchange → ReadBuffer → List (Nat × ReadEnd × ReadBuffer)
  | [], _ => []
  | read :: rest, buffer =>
      (read.room, read.ending, read.leave buffer) :: traces rest (read.leave buffer)

variable {buffer : ReadBuffer}

theorem leaveAll_concat (reads : List Exchange) (read : Exchange) :
    leaveAll (reads ++ [read]) buffer = read.leave (leaveAll reads buffer) :=
  List.foldl_append

theorem traces_concat (reads : List Exchange) (read : Exchange) :
    traces (reads ++ [read]) buffer = traces reads buffer ++
      [(read.room, read.ending, read.leave (leaveAll reads buffer))] := by
  induction reads generalizing buffer with
  | nil => rfl
  | cons first rest ih => exact congrArg _ ih

theorem getElem?_traces (reads : List Exchange) (number : Nat) :
    (traces reads buffer)[number]? = reads[number]?.map fun read =>
      (read.room, read.ending, read.leave (leaveAll (reads.take number) buffer)) := by
  induction reads generalizing buffer number with
  | nil => rfl
  | cons first rest ih =>
    cases number with
    | zero => rfl
    | succ number => exact ih number

end Exchange

/-- The read that comes back in a step, if one does. -/
def Capture.exchange? (c : Capture) : CaptureEvent → Option Exchange
  | .returned read =>
      match c.point with
      | .reading free => some (read.offered free)
      | _ => none
  | _ => none

/-- The reads that come back in a run, in order. -/
def Capture.exchanges (c : Capture) : List CaptureEvent → List Exchange
  | [] => []
  | event :: events => (c.exchange? event).toList ++ (c.step event).1.exchanges events

namespace Capture

variable {c : Capture}

theorem exchanges_append (first second : List CaptureEvent) :
    c.exchanges (first ++ second) = c.exchanges first ++ (c.run first).exchanges second := by
  induction first generalizing c with
  | nil => rfl
  | cons event events ih => simp only [List.cons_append, exchanges, run, ih, List.append_assoc]

theorem exchanges_concat (events : List CaptureEvent) (event : CaptureEvent) :
    c.exchanges (events ++ [event]) =
      c.exchanges events ++ ((c.run events).exchange? event).toList := by
  rw [exchanges_append]
  exact congrArg _ (List.append_nil _)

theorem exchange?_of_reading {free : Nat} (point : c.point = .reading free) (read : DeviceRead) :
    c.exchange? (.returned read) = some (read.offered free) := by
  simp only [exchange?, point]

theorem exchange?_of_elsewhere (elsewhere : ∀ free, c.point ≠ .reading free)
    (event : CaptureEvent) : c.exchange? event = none := by
  cases event with
  | returned read =>
    cases point : c.point with
    | reading free => exact absurd point (elsewhere free)
    | _ => simp only [exchange?, point]
  | _ => rfl

theorem point_of_exchange? {event : CaptureEvent} {read : Exchange}
    (back : c.exchange? event = some read) :
    c.point = .reading read.room ∧
      ∃ given : DeviceRead, event = .returned given ∧ given.offered read.room = read := by
  cases point : c.point with
  | reading free =>
    cases event with
    | returned given =>
      rw [exchange?_of_reading point, Option.some.injEq] at back
      subst back
      exact ⟨rfl, given, rfl, rfl⟩
    | _ => cases back
  | _ =>
    rw [exchange?_of_elsewhere (by simp [point])] at back
    cases back

/-- A read begins when the thread goes on with a grant, and is offered the space that is free. -/
theorem offered_step {event : CaptureEvent} {room : Nat}
    (begins : (c.step event).2.offered = some room) :
    event = .proceed ∧ c.point = .granted ∧ room = c.data.ring.free := by
  have move := c.step_control event
  rw [begins] at move
  have granted : c.point = .granted := move.granted
  cases event with
  | proceed =>
    simp only [step, proceed, granted, Option.some.injEq] at begins
    exact ⟨rfl, granted, begins.symm⟩
  | expire | letGo | returned | join =>
    simp [step, expire, letGo, returned, join, granted] at begins
  | stop | wake | take | drain | nextRecord => cases begins

theorem proceed_granted (granted : c.point = .granted) : c.proceed =
    ({ c with
        point := .reading c.data.ring.free
        tally := { c.tally with iterations := c.tally.iterations + 1 } },
      { offered := some c.data.ring.free }) := by
  simp only [proceed, granted]

theorem buffer_proceed (c : Capture) : c.proceed.1.buffer = c.buffer := by
  by_cases aside : c.point.isBetween = true ∧ c.point ≠ .granted
  · exact (aside_proceed aside.1 aside.2).buffer
  cases point : c.point with
  | granted | storing | signalling | reading | brokenDown => simp only [proceed, point, publish]
  | recording outcome => simp only [proceed, point, publishRecord_fst]
  | launched | requesting | entering | testing | waiting | leaving | ended =>
    simp [point, CapturePoint.isBetween] at aside

/-- Nothing but a read that comes back changes the buffer. -/
theorem buffer_step (c : Capture) (event : CaptureEvent) :
    (c.step event).1.buffer =
      (c.exchange? event).elim c.buffer fun read => read.leave c.buffer := by
  cases event with
  | proceed => exact c.buffer_proceed
  | expire => exact c.aside_expire.buffer
  | letGo => exact c.aside_letGo.buffer
  | stop => exact c.aside_stop.buffer
  | join => exact c.aside_join.buffer
  | wake | take | drain | nextRecord => rfl
  | returned read =>
    cases point : c.point with
    | reading free =>
      rw [exchange?_of_reading point]
      cases ending : read.ending <;> simp only [step, returned, point, ending] <;> rfl
    | _ =>
      rw [exchange?_of_elsewhere (by simp [point])]
      simp only [step, returned, point]
      rfl

end Capture

/-! ## Iterations and reads -/

/-- What is kept of the read of an iteration, once that has come back. -/
def Iteration.trace? (i : Iteration) : Option (Nat × ReadEnd × ReadBuffer) :=
  i.ending.map fun ending => (i.room, ending, i.buffer)

namespace Observed

variable {w : Observed} {reads : List Exchange}

/-- What is kept of the reads that have come back. -/
def traces (w : Observed) : List (Nat × ReadEnd × ReadBuffer) :=
  w.iterations.filterMap Iteration.trace?

theorem traces_eq (w : Observed) : w.traces =
    w.past.filterMap Iteration.trace? ++ (w.current.bind Iteration.trace?).toList := by
  unfold traces iterations
  rw [List.filterMap_append]
  cases w.current with
  | none => rfl
  | some i => cases kept : i.trace? <;> simp [kept]

theorem traces_proceed (standing : w.Standing) : (w.step .proceed).traces = w.traces := by
  by_cases aside : w.capture.point.isBetween = true ∧ w.capture.point ≠ .granted
  · rw [proceed_of_between aside.1 aside.2]
    rfl
  have stands := standing.stands
  cases point : w.capture.point with
  | granted =>
    -- the iteration that begins has no read yet
    have idle := stands.between (by rw [point]; rfl)
    rw [proceed_of_granted point, traces_eq, traces_eq, idle]
    rfl
  | storing free reported =>
    obtain ⟨count, -, current⟩ := stands.storing point
    rw [proceed_of_storing point, traces_eq, traces_eq, current]
    rfl
  | recording outcome =>
    obtain ⟨i, ending, current, -⟩ := stands.recording point
    rw [proceed_of_recording point, traces_eq, traces_eq, current]
    rfl
  | signalling =>
    rw [proceed_of_signalling point]
    show (w.iterations ++ []).filterMap Iteration.trace? = _
    rw [List.append_nil]
    rfl
  | reading free => rw [proceed_of_stuck (.inl ⟨free, point⟩)]
  | brokenDown => rw [proceed_of_stuck (.inr point)]
  | launched | requesting | entering | testing | waiting | leaving | ended =>
    simp [point, CapturePoint.isBetween] at aside

/-- Nothing but a read that comes back is kept anew. -/
theorem traces_step (standing : w.Standing) (event : CaptureEvent) :
    (w.step event).traces = w.traces ++ ((w.capture.exchange? event).map fun read =>
      (read.room, read.ending, read.leave w.capture.buffer)).toList := by
  have same : w.traces = w.traces ++ [] := (List.append_nil _).symm
  cases event with
  | proceed => exact (traces_proceed standing).trans same
  | expire | letGo | stop | join | wake | take | drain | nextRecord => exact same
  | returned read =>
    cases point : w.capture.point with
    | reading free =>
      have current := standing.stands.reading point
      rw [returned_of_reading point, Capture.exchange?_of_reading point, traces_eq, traces_eq,
        current, Option.bind_some]
      exact congrArg (· ++ _) (List.append_nil _).symm
    | _ =>
      have elsewhere : ∀ free, w.capture.point ≠ .reading free := by
        simp [point]
      rw [returned_of_elsewhere elsewhere, Capture.exchange?_of_elsewhere elsewhere]
      exact same

/-- The iterations whose reads have come back go with these, one by one, and the buffer is that
after all of them. -/
structure Paired (w : Observed) (reads : List Exchange) : Prop where
  buffer : w.capture.buffer = Exchange.leaveAll reads .blank
  traces : w.traces = Exchange.traces reads .blank

theorem Paired.step (h : w.Paired reads) (standing : w.Standing) (event : CaptureEvent) :
    (w.step event).Paired (reads ++ (w.capture.exchange? event).toList) := by
  have buffer := w.capture.buffer_step event
  have traces := traces_step standing event
  cases back : w.capture.exchange? event with
  | none =>
    rw [back] at buffer traces
    rw [Option.toList_none, List.append_nil]
    exact ⟨buffer.trans h.buffer, traces.trans ((List.append_nil _).trans h.traces)⟩
  | some read =>
    rw [back] at buffer traces
    refine ⟨?_, ?_⟩
    · rw [Option.toList_some, Exchange.leaveAll_concat, ← h.buffer]
      exact buffer
    · rw [Option.toList_some, Exchange.traces_concat, ← h.traces, ← h.buffer]
      exact traces

theorem Paired.run (h : w.Paired reads) (standing : w.Standing) (events : List CaptureEvent) :
    (w.run events).Paired (reads ++ w.capture.exchanges events) := by
  induction events generalizing w reads with
  | nil => exact (List.append_nil reads).symm ▸ h
  | cons event events ih =>
    rw [Capture.exchanges, ← List.append_assoc]
    exact ih (h.step standing event) (standing.move (w.step_move event))

/-- Only the last iteration can have a read that has not come back. -/
theorem Standing.trace?_isSome (h : w.Standing) {number : Nat}
    (few : number < w.iterations.length) :
    ∀ i ∈ w.iterations.take number, i.trace?.isSome = true := by
  have within : number ≤ w.past.length := by
    have most : w.current.toList.length ≤ 1 := by cases w.current <;> simp
    rw [iterations, List.length_append] at few
    omega
  intro i member
  rw [iterations, List.take_append_of_le_length within] at member
  obtain ⟨ending, ended, -⟩ := (h.past i (List.mem_of_mem_take member)).returned
  rw [Iteration.trace?, ended]
  rfl

theorem getElem?_filterMap {α β : Type} {f : α → Option β} {l : List α} {number : Nat} {a : α}
    (before : ∀ b ∈ l.take number, (f b).isSome = true) (here : l[number]? = some a)
    {b : β} (kept : f a = some b) : (l.filterMap f)[number]? = some b := by
  induction l generalizing number with
  | nil => cases here
  | cons first rest ih =>
    cases number with
    | zero =>
      cases here
      rw [List.filterMap_cons_some kept]
      rfl
    | succ number =>
      rw [List.take_succ_cons, List.forall_mem_cons] at before
      obtain ⟨c, some⟩ := Option.isSome_iff_exists.1 before.1
      rw [List.filterMap_cons_some some]
      exact ih before.2 here

/-- The read of an iteration that has come back. -/
theorem Paired.read (h : w.Paired reads) (standing : w.Standing) {number : Nat} {i : Iteration}
    (here : w.iterations[number]? = some i) {ending : ReadEnd} (ended : i.ending = some ending) :
    ∃ read, reads[number]? = some read ∧ read.room = i.room ∧ read.ending = ending ∧
      i.buffer = Exchange.leaveAll (reads.take (number + 1)) .blank := by
  have few : number < w.iterations.length := (List.getElem?_eq_some_iff.1 here).1
  have kept : i.trace? = some (i.room, ending, i.buffer) := by rw [Iteration.trace?, ended]; rfl
  have trace := getElem?_filterMap (standing.trace?_isSome few) here kept
  change w.traces[number]? = _ at trace
  rw [h.traces, Exchange.getElem?_traces, Option.map_eq_some_iff] at trace
  obtain ⟨read, there, same⟩ := trace
  obtain ⟨room, end_buffer⟩ := Prod.mk.inj same
  obtain ⟨last, buffer⟩ := Prod.mk.inj end_buffer
  refine ⟨read, there, room, last, ?_⟩
  rw [List.take_add_one, there, Option.toList_some, Exchange.leaveAll_concat]
  exact buffer.symm

theorem paired_fresh (chunkSize chunkCount : Nat) (priority : ThreadPriority)
    (requester : Requester) :
    Paired { capture := .fresh chunkSize chunkCount priority requester } [] := ⟨rfl, rfl⟩

theorem paired_history {chunkSize chunkCount : Nat} (positive : 0 < chunkSize * chunkCount)
    (priority : ThreadPriority) (requester : Requester) (events : List CaptureEvent) :
    let c := Capture.fresh chunkSize chunkCount priority requester
    (c.history events).Paired (c.exchanges events) :=
  (paired_fresh chunkSize chunkCount priority requester).run
    (standing_fresh positive priority requester) events

end Observed

end AudioCapture
