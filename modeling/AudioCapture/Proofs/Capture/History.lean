import AudioCapture.Capture.Step
import AudioCapture.Proofs.Ring.Contents

/-!
# The history of a capture

A capture beside a record of what has happened to it: its iterations, the bytes its consumer has
drained and the outcomes that were taken. What is kept of an iteration is measured when it
happens — the free space when the iteration begins, the buffer when its read comes back — so
statements about the ring, the status slot and the counts can be compared with it.

* `step_move` — all that a step can do to a capture and its history, in ten cases;
* `run_induction` — what each of them keeps, every run keeps;
* `Standing.move` — where the thread stands says how far the iteration under way has come.
-/

namespace AudioCapture

/-! ## Iterations -/

/-- The outcome of a read that has come back. -/
def ReadEnd.outcome? : ReadEnd → Option ReadOutcome
  | .transferred count => some (.ok count)
  | .failed status => some (.failed (status.toFailure "read").code)
  | .brokeDown => none

def ReadEnd.succeeded : ReadEnd → Bool
  | .transferred _ => true
  | _ => false

/-- One turn of the capture loop after a grant, as far as it has come. -/
structure Iteration where
  /-- The free space when it began. -/
  room : Nat
  /-- The buffer of the thread, as the read left it once that has come back. -/
  buffer : ReadBuffer
  /-- How the read ended, once it has. -/
  ending : Option ReadEnd := none
  /-- Whether the bytes of the read have been stored. -/
  stored : Bool := false
  /-- Whether the outcome found the status slot empty, once it was put there. -/
  recorded : Option Bool := none

namespace Iteration

def comeBack (i : Iteration) (read : DeviceRead) : Iteration :=
  { i with buffer := i.buffer.within i.room read.fill, ending := some read.ending }

def store (i : Iteration) : Iteration := { i with stored := true }

def record (i : Iteration) (fits : Bool) : Iteration := { i with recorded := some fits }

/-- The count that a successful read reported. -/
def reported (i : Iteration) : Nat :=
  match i.ending with
  | some (.transferred count) => count.toNat
  | _ => 0

/-- The bytes of a successful read whose data write has been done: the first of the buffer, as many
as the device reported and had room for. -/
def published (i : Iteration) : List UInt8 :=
  match i.ending, i.stored with
  | some (.transferred count), true => i.buffer.front (min count.toNat i.room)
  | _, _ => []

/-- The outcome, if it has gone into the status slot. -/
def record? (i : Iteration) : Option ReadOutcome :=
  match i.ending, i.recorded with
  | some ending, some true => ending.outcome?
  | _, _ => none

/-- All steps have been taken, but for the signal. -/
structure Complete (i : Iteration) : Prop where
  returned : ∃ ending, i.ending = some ending ∧ ending ≠ .brokeDown ∧ i.stored = ending.succeeded
  recorded : ∃ fits, i.recorded = some fits

end Iteration

/-- Where the thread stands says how far the iteration under way has come. -/
def Capture.Stands (c : Capture) (current : Option Iteration) : Prop :=
  match c.point with
  | .reading free => current = some { room := free, buffer := c.buffer }
  | .storing free reported => ∃ count : UInt64, count.toNat = reported ∧
      current = some { room := free, buffer := c.buffer, ending := some (.transferred count) }
  | .recording outcome => ∃ i ending, current = some i ∧ i.ending = some ending ∧
      ending.outcome? = some outcome ∧ i.stored = ending.succeeded ∧ i.recorded = none
  | .signalling => ∃ i, current = some i ∧ i.Complete
  | .brokenDown => ∀ i, current = some i →
      i.ending = some .brokeDown ∧ i.stored = false ∧ i.recorded = none
  | _ => current = none

/-- Whether the thread is in no iteration and has not broken down. -/
def CapturePoint.isBetween : CapturePoint → Bool
  | .reading _ | .storing _ _ | .recording _ | .signalling | .brokenDown => false
  | _ => true

namespace Capture

variable {c next : Capture} {current : Option Iteration}

theorem stands_iff_none (between : c.point.isBetween = true) :
    c.Stands current ↔ current = none := by
  unfold Stands
  cases h : c.point <;> simp_all [CapturePoint.isBetween]

theorem Stands.congr (h : c.Stands current) (point : next.point = c.point)
    (buffer : next.buffer = c.buffer) : next.Stands current := by
  unfold Stands at h ⊢
  rw [point, buffer]
  exact h

theorem Stands.between (h : c.Stands current) (between : c.point.isBetween = true) :
    current = none := (stands_iff_none between).1 h

theorem Stands.reading {free : Nat} (h : c.Stands current) (point : c.point = .reading free) :
    current = some { room := free, buffer := c.buffer } := by
  unfold Stands at h
  rwa [point] at h

theorem Stands.storing {free reported : Nat} (h : c.Stands current)
    (point : c.point = .storing free reported) : ∃ count : UInt64, count.toNat = reported ∧
      current = some { room := free, buffer := c.buffer, ending := some (.transferred count) } := by
  unfold Stands at h
  rwa [point] at h

theorem Stands.recording {outcome : ReadOutcome} (h : c.Stands current)
    (point : c.point = .recording outcome) : ∃ i ending, current = some i ∧
      i.ending = some ending ∧ ending.outcome? = some outcome ∧ i.stored = ending.succeeded ∧
      i.recorded = none := by
  unfold Stands at h
  rwa [point] at h

theorem Stands.signalling (h : c.Stands current) (point : c.point = .signalling) :
    ∃ i, current = some i ∧ i.Complete := by
  unfold Stands at h
  rwa [point] at h

theorem Stands.brokenDown {i : Iteration} (h : c.Stands (some i))
    (point : c.point = .brokenDown) :
    i.ending = some .brokeDown ∧ i.stored = false ∧ i.recorded = none := by
  unfold Stands at h
  rw [point] at h
  exact h i rfl

end Capture

/-! ## Observed captures -/

structure Observed where
  capture : Capture
  /-- The iterations that are over, the oldest first. -/
  past : List Iteration := []
  /-- The iteration under way. -/
  current : Option Iteration := none
  /-- What the consumer has drained. -/
  drained : List UInt8 := []
  /-- The outcomes that were taken from the status slot. -/
  taken : List ReadOutcome := []

/-- A transport whose thread has just been launched. -/
def Capture.fresh (chunkSize chunkCount : Nat) (priority : ThreadPriority)
    (requester : Requester) : Capture where
  chunkSize
  chunkCount
  data := { ring := .empty (chunkSize * chunkCount), bound := true }
  records := .empty 1
  priority
  requester

/-- A transport of some size as it is made. -/
def Capture.IsFresh (c : Capture) : Prop :=
  ∃ chunkSize chunkCount priority requester, 0 < chunkSize * chunkCount ∧
    c = .fresh chunkSize chunkCount priority requester

namespace Observed

def iterations (w : Observed) : List Iteration := w.past ++ w.current.toList

/-- What an event means for the iterations. -/
def turn (w : Observed) : CaptureEvent → List Iteration × Option Iteration
  | .proceed =>
      match w.capture.point with
      | .granted =>
          (w.past, some { room := w.capture.data.ring.free, buffer := w.capture.buffer })
      | .storing _ _ => (w.past, w.current.map Iteration.store)
      | .recording _ =>
          -- the slot takes the outcome if it is empty now
          (w.past, w.current.map (·.record (decide (0 < w.capture.records.free))))
      | .signalling => (w.iterations, none)
      | _ => (w.past, w.current)
  | .returned read =>
      match w.capture.point with
      | .reading _ => (w.past, w.current.map (·.comeBack read))
      | _ => (w.past, w.current)
  | _ => (w.past, w.current)

def step (w : Observed) (event : CaptureEvent) : Observed where
  capture := (w.capture.step event).1
  past := (w.turn event).1
  current := (w.turn event).2
  drained := w.drained ++ (w.capture.step event).2.bytes
  taken := w.taken ++ (w.capture.step event).2.record.toList

def run (w : Observed) (events : List CaptureEvent) : Observed := events.foldl step w

@[simp] theorem run_nil (w : Observed) : w.run [] = w := rfl

@[simp] theorem run_cons (w : Observed) (event : CaptureEvent) (events : List CaptureEvent) :
    w.run (event :: events) = (w.step event).run events := rfl

end Observed

/-- What happens to a capture, from now on. -/
def Capture.history (c : Capture) (events : List CaptureEvent) : Observed :=
  Observed.run { capture := c } events

namespace Observed

/-! ## The history is about the run -/

theorem run_capture (w : Observed) (events : List CaptureEvent) :
    (w.run events).capture = w.capture.run events := by
  induction events generalizing w with
  | nil => rfl
  | cons event events ih => exact ih (w.step event)

theorem run_drained (w : Observed) (events : List CaptureEvent) :
    (w.run events).drained =
      w.drained ++ (w.capture.replies events).flatMap CaptureReply.bytes := by
  induction events generalizing w with
  | nil => exact (List.append_nil _).symm
  | cons event events ih =>
    rw [run_cons, ih, Capture.replies, List.flatMap_cons, ← List.append_assoc]
    rfl

theorem run_taken (w : Observed) (events : List CaptureEvent) :
    (w.run events).taken =
      w.taken ++ (w.capture.replies events).filterMap CaptureReply.record := by
  induction events generalizing w with
  | nil => exact (List.append_nil _).symm
  | cons event events ih =>
    rw [run_cons, ih, Capture.replies]
    cases given : (w.capture.step event).2.record <;> simp [step, given]

end Observed

/-! ## What a step can do -/

namespace Capture

/-- A step that concerns no iteration and not the consumer: the data, the outcomes, the buffer and
all counts but that of the idle waits stay as they are. -/
structure Aside (c : Capture) (done : Capture × CaptureReply) : Prop where
  ring : done.1.data.ring = c.data.ring
  records : done.1.records = c.records
  buffer : done.1.buffer = c.buffer
  tally : { done.1.tally with idleWaits := 0 } = { c.tally with idleWaits := 0 }
  point : done.1.point = c.point ∨ c.point.isBetween = true ∧
    (done.1.point.isBetween = true ∨ done.1.point = .brokenDown)
  bytes : done.2.bytes = []
  record : done.2.record = none

theorem Aside.refl (c : Capture) : c.Aside (c, {}) := ⟨rfl, rfl, rfl, rfl, .inl rfl, rfl, rfl⟩

theorem aside_endRequest {c : Capture} (h : c.point = .requesting) (ends : RequestEnd) :
    c.Aside (c.endRequest ends) := by
  have here : c.point.isBetween = true := by rw [h]; rfl
  obtain ⟨point, notices, same, rfl | rfl | rfl⟩ := c.endRequest_eq ends
  · exact same ▸ ⟨rfl, rfl, rfl, rfl, .inr ⟨here, .inl rfl⟩, rfl, rfl⟩
  · exact same ▸ ⟨rfl, rfl, rfl, rfl, .inl rfl, rfl, rfl⟩
  · exact same ▸ ⟨rfl, rfl, rfl, rfl, .inr ⟨here, .inr rfl⟩, rfl, rfl⟩

theorem aside_lookForGrant {c expired : Capture} (h : c.point = .waiting)
    (otherwise : c.Aside (expired, {})) : c.Aside (c.lookForGrant expired) := by
  have here : c.point.isBetween = true := by rw [h]; rfl
  unfold lookForGrant
  dsimp only
  split
  · exact ⟨rfl, rfl, rfl, rfl, .inr ⟨here, .inl rfl⟩, rfl, rfl⟩
  · exact otherwise

theorem aside_expire (c : Capture) : c.Aside c.expire := by
  unfold expire
  split
  · rename_i h
    have here : c.point.isBetween = true := by rw [h]; rfl
    exact aside_lookForGrant h ⟨rfl, rfl, rfl, rfl, .inr ⟨here, .inl rfl⟩, rfl, rfl⟩
  · exact .refl c

theorem aside_letGo (c : Capture) : c.Aside c.letGo := by
  unfold letGo
  split
  · rename_i requesting _
    exact aside_endRequest requesting _
  · exact .refl c

theorem aside_stop (c : Capture) : c.Aside (c.stop, {}) := by
  unfold stop
  split
  · exact ⟨rfl, rfl, rfl, rfl, .inl rfl, rfl, rfl⟩
  · split <;> exact ⟨rfl, rfl, rfl, rfl, .inl rfl, rfl, rfl⟩
  · exact ⟨rfl, rfl, rfl, rfl, .inl rfl, rfl, rfl⟩
  · exact .refl c

theorem aside_join (c : Capture) : c.Aside c.join := by
  unfold join
  split <;> exact ⟨rfl, rfl, rfl, rfl, .inl rfl, rfl, rfl⟩

theorem aside_wake (c : Capture) (mask : Signals) : c.Aside (c.step (.wake mask)) :=
  ⟨rfl, rfl, rfl, rfl, .inl rfl, rfl, rfl⟩

theorem aside_take (c : Capture) (mask : Signals) : c.Aside (c.step (.take mask)) :=
  ⟨rfl, rfl, rfl, rfl, .inl rfl, rfl, rfl⟩

theorem publishRecord_silent (c : Capture) (outcome : ReadOutcome) :
    (c.publishRecord outcome).2.bytes = [] ∧ (c.publishRecord outcome).2.record = none := by
  unfold publishRecord
  dsimp only
  split <;> exact ⟨rfl, rfl⟩

/-- What putting an outcome into the slot does, whether it fits or is dropped. -/
theorem publishRecord_fst (c : Capture) (outcome : ReadOutcome) :
    (c.publishRecord outcome).1 = { c with
      records := (c.records.write [outcome]).1
      point := .signalling
      tally := if 0 < c.records.free
        then { c.tally with statusPublished := c.tally.statusPublished + 1 }
        else { c.tally with statusDrops := c.tally.statusDrops + 1 } } := by
  unfold publishRecord
  by_cases room : 0 < c.records.free <;> simp [room] <;> rfl

/-- The steps of the thread outside its iterations. -/
theorem aside_proceed {c : Capture} (here : c.point.isBetween = true)
    (ungranted : c.point ≠ .granted) : c.Aside c.proceed := by
  cases h : c.point with
  | launched =>
    simp only [proceed, h]
    split <;> exact ⟨rfl, rfl, rfl, rfl, .inr ⟨here, .inl rfl⟩, rfl, rfl⟩
  | requesting =>
    simp only [proceed, h]
    exact aside_endRequest h _
  | entering | leaving =>
    simp only [proceed, h]
    exact ⟨rfl, rfl, rfl, rfl, .inr ⟨here, .inl rfl⟩, rfl, rfl⟩
  | testing =>
    simp only [proceed, h]
    exact ⟨rfl, rfl, rfl, rfl, .inr ⟨here, .inl (by dsimp only; split <;> rfl)⟩, rfl, rfl⟩
  | waiting =>
    simp only [proceed, h]
    exact aside_lookForGrant h (.refl c)
  | granted => exact absurd h ungranted
  | ended =>
    simp only [proceed, h]
    exact .refl c
  | reading | storing | recording | signalling | brokenDown =>
    rw [h] at here
    cases here

end Capture

namespace Observed

/-- All that a step can do to a capture and its history. -/
inductive Move (w : Observed) : Observed → Prop
  | aside (done : Capture × CaptureReply) :
      w.capture.Aside done → Move w { w with capture := done.1 }
  /-- An iteration begins. -/
  | began : w.capture.point = .granted →
      Move w { w with
        capture := { w.capture with
          point := .reading w.capture.data.ring.free
          tally := { w.capture.tally with iterations := w.capture.tally.iterations + 1 } }
        current := some { room := w.capture.data.ring.free, buffer := w.capture.buffer } }
  /-- The read comes back with a count. -/
  | succeeded (free : Nat) (read : DeviceRead) (count : UInt64) :
      w.capture.point = .reading free → read.ending = .transferred count →
      Move w { w with
        capture := { w.capture with
          buffer := w.capture.buffer.within free read.fill
          point := .storing free count.toNat }
        current := w.current.map (·.comeBack read) }
  /-- The read comes back with a status. -/
  | failed (free : Nat) (read : DeviceRead) (status : DeviceStatus) :
      w.capture.point = .reading free → read.ending = .failed status →
      Move w { w with
        capture := { w.capture with
          buffer := w.capture.buffer.within free read.fill
          point := .recording (.failed (status.toFailure "read").code)
          tally := { w.capture.tally with readErrors := w.capture.tally.readErrors + 1 } }
        current := w.current.map (·.comeBack read) }
  /-- The read takes the thread with it. -/
  | brokeDown (free : Nat) (read : DeviceRead) :
      w.capture.point = .reading free → read.ending = .brokeDown →
      Move w { w with
        capture := { w.capture with
          buffer := w.capture.buffer.within free read.fill
          point := .brokenDown }
        current := w.current.map (·.comeBack read) }
  /-- The data write. -/
  | stored (free reported : Nat) : w.capture.point = .storing free reported →
      Move w { w with
        capture := (w.capture.publish free reported).1
        current := w.current.map Iteration.store }
  /-- The outcome is put into the slot or dropped. -/
  | recorded (outcome : ReadOutcome) : w.capture.point = .recording outcome →
      Move w { w with
        capture := (w.capture.publishRecord outcome).1
        current := w.current.map (·.record (decide (0 < w.capture.records.free))) }
  | signalled : w.capture.point = .signalling →
      Move w { w with
        capture := { w.capture with data := w.capture.data.wake .dataReady, point := .testing }
        past := w.iterations
        current := none }
  | drained (most : Nat) :
      Move w { w with
        capture := (w.capture.drain most).1
        drained := w.drained ++ (w.capture.drain most).2 }
  | took :
      Move w { w with
        capture := w.capture.nextRecord.1
        taken := w.taken ++ w.capture.nextRecord.2.toList }

/-! ### Single steps -/

section Steps

variable {w : Observed}

/-- An event that changes nothing but the capture. -/
theorem step_of_aside {event : CaptureEvent} (unturned : w.turn event = (w.past, w.current))
    (aside : w.capture.Aside (w.capture.step event)) :
    w.step event = { w with capture := (w.capture.step event).1 } := by
  simp [step, unturned, aside.bytes, aside.record]

/-- An event that cannot happen where the thread stands. -/
theorem step_of_still {event : CaptureEvent} (unturned : w.turn event = (w.past, w.current))
    (still : w.capture.step event = (w.capture, {})) : w.step event = w := by
  rw [step_of_aside unturned (still ▸ .refl w.capture), still]

theorem proceed_of_granted (point : w.capture.point = .granted) :
    w.step .proceed = { w with
      capture := { w.capture with
        point := .reading w.capture.data.ring.free
        tally := { w.capture.tally with iterations := w.capture.tally.iterations + 1 } }
      current := some { room := w.capture.data.ring.free, buffer := w.capture.buffer } } := by
  simp [step, turn, Capture.step, Capture.proceed, point]

theorem proceed_of_storing {free reported : Nat}
    (point : w.capture.point = .storing free reported) :
    w.step .proceed = { w with
      capture := (w.capture.publish free reported).1
      current := w.current.map Iteration.store } := by
  simp [step, turn, Capture.step, Capture.proceed, Capture.publish, point]

theorem proceed_of_recording {outcome : ReadOutcome}
    (point : w.capture.point = .recording outcome) :
    w.step .proceed = { w with
      capture := (w.capture.publishRecord outcome).1
      current := w.current.map (·.record (decide (0 < w.capture.records.free))) } := by
  have silent := w.capture.publishRecord_silent outcome
  simp [step, turn, Capture.step, Capture.proceed, point, silent]

theorem proceed_of_signalling (point : w.capture.point = .signalling) :
    w.step .proceed = { w with
      capture := { w.capture with data := w.capture.data.wake .dataReady, point := .testing }
      past := w.iterations
      current := none } := by
  simp [step, turn, Capture.step, Capture.proceed, point]

/-- The thread outside its iterations. -/
theorem proceed_of_between (here : w.capture.point.isBetween = true)
    (ungranted : w.capture.point ≠ .granted) :
    w.step .proceed = { w with capture := w.capture.proceed.1 } := by
  refine step_of_aside ?_ (Capture.aside_proceed here ungranted)
  cases point : w.capture.point <;> simp_all [turn, CapturePoint.isBetween]

/-- A thread that waits for the device, or that broke down, does nothing by itself. -/
theorem proceed_of_stuck (stuck : (∃ free, w.capture.point = .reading free) ∨
    w.capture.point = .brokenDown) : w.step .proceed = w := by
  rcases stuck with ⟨free, point⟩ | point <;>
    exact step_of_still (by simp [turn, point]) (by simp [Capture.step, Capture.proceed, point])

theorem returned_of_reading {free : Nat} (point : w.capture.point = .reading free)
    (read : DeviceRead) :
    w.step (.returned read) = { w with
      capture := (w.capture.returned read).1
      current := w.current.map (·.comeBack read) } := by
  cases ending : read.ending <;>
    simp [step, turn, Capture.step, Capture.returned, point, ending]

/-- A read can only come back to a thread that is in one. -/
theorem returned_of_elsewhere (elsewhere : ∀ free, w.capture.point ≠ .reading free)
    (read : DeviceRead) : w.step (.returned read) = w := by
  cases point : w.capture.point with
  | reading free => exact absurd point (elsewhere free)
  | _ =>
    exact step_of_still (by simp [turn, point]) (by simp [Capture.step, Capture.returned, point])

theorem step_wake (w : Observed) (mask : Signals) :
    w.step (.wake mask) = { w with capture := w.capture.wake mask } :=
  step_of_aside rfl (Capture.aside_wake w.capture mask)

theorem step_take (w : Observed) (mask : Signals) :
    w.step (.take mask) = { w with capture := (w.capture.take mask).1 } :=
  step_of_aside rfl (Capture.aside_take w.capture mask)

theorem step_drain (w : Observed) (most : Nat) :
    w.step (.drain most) = { w with
      capture := (w.capture.drain most).1
      drained := w.drained ++ (w.capture.drain most).2 } := by
  simp [step, turn, Capture.step]

theorem step_nextRecord (w : Observed) :
    w.step .nextRecord = { w with
      capture := w.capture.nextRecord.1
      taken := w.taken ++ w.capture.nextRecord.2.toList } := by
  simp [step, turn, Capture.step]

end Steps

theorem Move.of_aside {w : Observed} {event : CaptureEvent}
    (unturned : w.turn event = (w.past, w.current))
    (aside : w.capture.Aside (w.capture.step event)) : w.Move (w.step event) := by
  rw [step_of_aside unturned aside]
  exact .aside _ aside

theorem Move.still (w : Observed) : w.Move w := .aside _ (.refl w.capture)

theorem proceed_move (w : Observed) : w.Move (w.step .proceed) := by
  -- outside the iterations the thread only moves itself
  by_cases iterating : w.capture.point.isBetween = true ∧ w.capture.point ≠ .granted
  · obtain ⟨here, ungranted⟩ := iterating
    rw [proceed_of_between here ungranted]
    exact .aside _ (Capture.aside_proceed here ungranted)
  cases point : w.capture.point with
  | granted =>
    rw [proceed_of_granted point]
    exact .began point
  | storing free reported =>
    rw [proceed_of_storing point]
    exact .stored free reported point
  | recording outcome =>
    rw [proceed_of_recording point]
    exact .recorded outcome point
  | signalling =>
    rw [proceed_of_signalling point]
    exact .signalled point
  | reading free =>
    rw [proceed_of_stuck (.inl ⟨free, point⟩)]
    exact .still w
  | brokenDown =>
    rw [proceed_of_stuck (.inr point)]
    exact .still w
  | launched | requesting | entering | testing | waiting | leaving | ended =>
    simp [point, CapturePoint.isBetween] at iterating

theorem returned_move (w : Observed) (read : DeviceRead) : w.Move (w.step (.returned read)) := by
  cases point : w.capture.point with
  | reading free =>
    rw [returned_of_reading point]
    cases ending : read.ending with
    | transferred count =>
      simp only [Capture.returned, point, ending]
      exact .succeeded free read count point ending
    | failed status =>
      simp only [Capture.returned, point, ending]
      exact .failed free read status point ending
    | brokeDown =>
      simp only [Capture.returned, point, ending]
      exact .brokeDown free read point ending
  | _ =>
    rw [returned_of_elsewhere (by simp [point])]
    exact .still w

theorem step_move (w : Observed) (event : CaptureEvent) : w.Move (w.step event) := by
  cases event with
  | proceed => exact w.proceed_move
  | returned read => exact w.returned_move read
  | expire => exact .of_aside rfl (Capture.aside_expire _)
  | letGo => exact .of_aside rfl (Capture.aside_letGo _)
  | stop => exact .of_aside rfl (Capture.aside_stop _)
  | join => exact .of_aside rfl (Capture.aside_join _)
  | wake mask => exact .of_aside rfl (Capture.aside_wake _ mask)
  | take mask => exact .of_aside rfl (Capture.aside_take _ mask)
  | drain most =>
    rw [step_drain]
    exact .drained most
  | nextRecord =>
    rw [step_nextRecord]
    exact .took

/-- What every step keeps, every run keeps. -/
theorem run_induction (Kept : Observed → Prop) (kept : ∀ {w next}, w.Move next → Kept w → Kept next)
    {w : Observed} (start : Kept w) (events : List CaptureEvent) : Kept (w.run events) := by
  induction events generalizing w with
  | nil => exact start
  | cons event events ih => exact ih (kept (w.step_move event) start)

/-! ## Where the thread stands -/

/-- Both queues are valid, the iterations that are over are complete, and the thread stands where
the iteration under way has come to. -/
structure Standing (w : Observed) : Prop where
  data : w.capture.data.ring.Valid
  records : w.capture.records.Valid
  stands : w.capture.Stands w.current
  past : ∀ i ∈ w.past, i.Complete

theorem Standing.move {w next : Observed} (move : w.Move next) (h : w.Standing) :
    next.Standing := by
  cases move with
  | aside done aside =>
    refine ⟨?_, ?_, ?_, h.past⟩
    · exact aside.ring ▸ h.data
    · exact aside.records ▸ h.records
    · -- outside the iterations the thread goes on, or breaks down in its request for a priority
      rcases aside.point with same | ⟨here, there | broken⟩
      · exact h.stands.congr same aside.buffer
      · exact (Capture.stands_iff_none there).2 (h.stands.between here)
      · have idle := h.stands.between here
        show done.1.Stands w.current
        simp [Capture.Stands, broken, idle]
  | began point =>
    refine ⟨h.data, h.records, ?_, h.past⟩
    simp [Capture.Stands]
  | succeeded free read count point ending =>
    have current := h.stands.reading point
    refine ⟨h.data, h.records, ⟨count, rfl, ?_⟩, h.past⟩
    simp [current, Iteration.comeBack, ending]
  | failed free read status point ending =>
    have current := h.stands.reading point
    refine ⟨h.data, h.records, ⟨_, .failed status, congrArg (Option.map (·.comeBack read)) current,
      congrArg some ending, rfl, rfl, rfl⟩, h.past⟩
  | brokeDown free read point ending =>
    have current := h.stands.reading point
    refine ⟨h.data, h.records, ?_, h.past⟩
    simp [Capture.Stands, current, Iteration.comeBack, ending]
  | stored free reported point =>
    obtain ⟨count, rfl, current⟩ := h.stands.storing point
    refine ⟨h.data.writeFrom fun _ _ => rfl, h.records, ?_, h.past⟩
    refine ⟨_, .transferred count, congrArg (Option.map Iteration.store) current, rfl, ?_, rfl, rfl⟩
    simp [ReadEnd.outcome?]
  | recorded outcome point =>
    obtain ⟨i, ending, current, ended, came, bytes, -⟩ := h.stands.recording point
    simp only [Capture.publishRecord_fst]
    refine ⟨h.data, h.records.write _, ?_, h.past⟩
    -- a read that broke down has no outcome to record
    have unbroken : ending ≠ .brokeDown := by
      rintro rfl
      cases came
    let fits := decide (0 < w.capture.records.free)
    exact ⟨i.record fits, congrArg (Option.map (·.record fits)) current,
      ⟨ending, ended, unbroken, bytes⟩, ⟨fits, rfl⟩⟩
  | signalled point =>
    obtain ⟨i, current, complete⟩ := h.stands.signalling point
    refine ⟨h.data, h.records, rfl, ?_⟩
    intro j member
    simp only [iterations, current, List.mem_append, Option.toList_some, List.mem_singleton]
      at member
    rcases member with old | rfl
    · exact h.past j old
    · exact complete
  | drained most => exact ⟨h.data.read most, h.records, h.stands.congr rfl rfl, h.past⟩
  | took => exact ⟨h.data, h.records.readOne, h.stands.congr rfl rfl, h.past⟩

theorem standing_fresh {chunkSize chunkCount : Nat} (positive : 0 < chunkSize * chunkCount)
    (priority : ThreadPriority) (requester : Requester) :
    Standing { capture := .fresh chunkSize chunkCount priority requester } :=
  ⟨Ring.valid_empty positive, Ring.valid_empty Nat.one_pos, rfl, nofun⟩

end Observed

/-! ## A run -/

/-- One turn of the loop, from the grant to the next wait; `meanwhile` is what happens while the
read is under way. -/
def CaptureEvent.turn (read : DeviceRead) (meanwhile : List CaptureEvent) : List CaptureEvent :=
  [.wake .spaceReady, .proceed, .proceed] ++ meanwhile ++
    [.returned read, .proceed, .proceed, .proceed, .proceed]

/-- A run of a transport of four bytes. The first read reports nine; the consumer drains during the
second, which finds the status slot full; the third fails; the thread breaks down in the last. -/
def CaptureEvent.sample : List CaptureEvent :=
  [.proceed, .proceed, .proceed] ++
    turn (.ofBytes [1, 2, 3] 9) [] ++ [.drain 3] ++
    turn (.ofBytes [5, 6, 7] 2) [.drain 1] ++ [.nextRecord] ++
    turn { ending := .failed .io } [] ++ turn { ending := .brokeDown } []

end AudioCapture
