import AudioCapture.Capture.Step

/-!
# The control of a capture thread

Where the thread stands, the state it shows, and how far a request to stop it has got: none of
this depends on what goes through the queues.

* `Capture.step_control` — all that a step can do to it, in eleven cases;
* `Capture.control_induction` — what each of them keeps, every run keeps.
-/

namespace AudioCapture

structure ThreadControl where
  point : CapturePoint
  state : WorkerState
  stopFlag : Bool
  stopPoint : StopPoint
  /-- How the thread's request for a priority ends. -/
  request : RequestEnd

def Capture.control (c : Capture) : ThreadControl where
  point := c.point
  state := c.state
  stopFlag := c.stopFlag
  stopPoint := c.stopPoint
  request := c.requester.outcome c.priority

/-- From where to where a thread goes that neither begins a read nor changes the state it shows;
`stopping` says whether the stop flag is up. -/
inductive CapturePoint.Leads (stopping : Bool) : CapturePoint → CapturePoint → Prop
  | asks : Leads stopping .launched .requesting
  | skips : Leads stopping .launched .entering
  | goesOn : Leads stopping .requesting .entering
  | stops : stopping = true → Leads stopping .testing .leaving
  | waits : stopping = false → Leads stopping .testing .waiting
  | takes : Leads stopping .waiting .granted
  | expires : Leads stopping .waiting .testing
  | stores (free reported : Nat) : Leads stopping (.reading free) (.storing free reported)
  | fails (free : Nat) (outcome : ReadOutcome) :
      Leads stopping (.reading free) (.recording outcome)
  | records (free reported : Nat) (outcome : ReadOutcome) :
      Leads stopping (.storing free reported) (.recording outcome)
  | signals (outcome : ReadOutcome) : Leads stopping (.recording outcome) .signalling
  | comesRound : Leads stopping .signalling .testing

/-- A read that comes back takes the thread with it. -/
def CaptureEvent.breaks : CaptureEvent → Bool
  | .returned read => read.ending = .brokeDown
  | _ => false

/-- Whether an event is a step of the capture thread that needs nothing of the device. A held
request for a priority is only let go when the gate is open. -/
def CaptureEvent.isThreads (gateOpen : Bool) : CaptureEvent → Bool
  | .proceed | .expire => true
  | .letGo => gateOpen
  | _ => false

/-- Whether an event is one that the consumer brings about. -/
def CaptureEvent.isConsumers : CaptureEvent → Bool
  | .wake _ | .take _ | .drain _ | .nextRecord => true
  | _ => false

/-- All that an event can do to the control of a thread, and whether a read begins, with the room it
is offered. -/
inductive ThreadControl.Move (h : ThreadControl) (event : CaptureEvent) :
    Option Nat → ThreadControl → Prop
  | still : Move h event none h
  | went {point next : CapturePoint} : h.point = point → point.Leads h.stopFlag next →
      Move h event none { h with point := next }
  | began (free : Nat) : h.point = .granted →
      Move h event (some free) { h with point := .reading free }
  | brokeDown : (h.point = .requesting ∧ ∃ cause, h.request = .brokeDown cause) ∨
        ((∃ free, h.point = .reading free) ∧ event.breaks = true) →
      Move h event none { h with point := .brokenDown }
  | entered : h.point = .entering → Move h event none { h with
      point := .testing
      state := if h.state = .created then .running else h.state }
  | left : h.point = .leaving → Move h event none { h with point := .ended, state := .exited }
  /-- The first step of a request to stop. -/
  | flagged : h.stopPoint = .unasked →
      Move h event none { h with stopFlag := true, stopPoint := .flagged }
  /-- The second, when the thread runs. -/
  | marked : h.stopPoint = .flagged → h.state = .running →
      Move h event none { h with state := .stopping, stopPoint := .returned }
  /-- The second, when it does not. -/
  | missed : h.stopPoint = .flagged → h.state ≠ .running →
      Move h event none { h with stopPoint := .unmarked }
  | returned : h.stopPoint = .unmarked → Move h event none { h with
      stopPoint := .returned
      state := if h.state = .created then .stopping else h.state }
  | joined : h.point = .brokenDown → Move h event none { h with state := .exited }

/-- A read begins with a grant that was taken. -/
theorem ThreadControl.Move.granted {h next : ThreadControl} {event : CaptureEvent} {free : Nat}
    (move : h.Move event (some free) next) : h.point = .granted := by
  cases move with
  | began _ granted => exact granted

/-- A thread that takes no more steps stays where it is. -/
theorem ThreadControl.Move.point_of_isFinal {h next : ThreadControl} {event : CaptureEvent}
    {offered : Option Nat} (move : h.Move event offered next) (final : h.point.isFinal = true) :
    next.point = h.point := by
  have elsewhere : ∀ {point : CapturePoint}, h.point = point → point.isFinal = true := by
    rintro point rfl
    exact final
  cases move with
  | went here leads => cases leads <;> cases elsewhere here
  | began free granted => cases elsewhere granted
  | brokeDown cause =>
    rcases cause with ⟨requesting, -⟩ | ⟨⟨free, reading⟩, -⟩
    · cases elsewhere requesting
    · cases elsewhere reading
  | entered entering => cases elsewhere entering
  | left leaving => cases elsewhere leaving
  | still | flagged | marked | missed | returned | joined => rfl

namespace Capture

variable {c : Capture} {event : CaptureEvent}

theorem lookForGrant_control {expired : Capture} (waiting : c.point = .waiting)
    (otherwise : c.control.Move event none expired.control) :
    c.control.Move event (c.lookForGrant expired).2.offered (c.lookForGrant expired).1.control := by
  unfold lookForGrant
  dsimp only
  split
  · exact .went waiting .takes
  · exact otherwise

theorem endRequest_control (requesting : c.point = .requesting) {ends : RequestEnd}
    (broke : ∀ cause, ends = .brokeDown cause → c.requester.outcome c.priority = ends) :
    c.control.Move event (c.endRequest ends).2.offered (c.endRequest ends).1.control := by
  unfold endRequest
  split
  · exact .went requesting .goesOn
  · exact .went requesting .goesOn
  · exact .still
  · rename_i cause
    exact .brokeDown (.inl ⟨requesting, cause, broke cause rfl⟩)

theorem proceed_control (c : Capture) :
    c.control.Move .proceed c.proceed.2.offered c.proceed.1.control := by
  cases point : c.point with
  | launched =>
    simp only [proceed, point]
    split
    · exact .went point .asks
    · exact .went point .skips
  | requesting =>
    simp only [proceed, point]
    exact endRequest_control point fun cause breaks =>
      Requester.outcome_of_unheld (by simp [breaks])
  | entering =>
    simp only [proceed, point]
    exact .entered point
  | testing =>
    have leads : CapturePoint.Leads c.stopFlag .testing
        (if c.stopFlag then .leaving else .waiting) := by
      cases c.stopFlag with
      | true => exact .stops rfl
      | false => exact .waits rfl
    simp only [proceed, point]
    exact .went point leads
  | waiting =>
    simp only [proceed, point]
    exact lookForGrant_control point .still
  | granted =>
    simp only [proceed, point]
    exact .began _ point
  | storing free reported =>
    simp only [proceed, point]
    exact .went point (.records free reported _)
  | recording outcome =>
    simp only [proceed, point, publishRecord]
    split
    · exact .went point (.signals outcome)
    · exact .went point (.signals outcome)
  | signalling =>
    simp only [proceed, point]
    exact .went point .comesRound
  | leaving =>
    simp only [proceed, point]
    exact .left point
  | reading | ended | brokenDown =>
    simp only [proceed, point]
    exact .still

theorem expire_control (c : Capture) :
    c.control.Move .expire c.expire.2.offered c.expire.1.control := by
  unfold expire
  split
  · rename_i waiting
    exact lookForGrant_control waiting (.went waiting .expires)
  · exact .still

theorem returned_control (c : Capture) (read : DeviceRead) :
    c.control.Move (.returned read) (c.returned read).2.offered (c.returned read).1.control := by
  unfold returned
  split
  · rename_i free point
    cases ending : read.ending with
    | transferred count => exact .went point (.stores free _)
    | failed status => exact .went point (.fails free _)
    | brokeDown => exact .brokeDown (.inr ⟨⟨free, point⟩, decide_eq_true ending⟩)
  · exact .still

theorem stop_control (c : Capture) : c.control.Move event none c.stop.control := by
  unfold stop
  split
  · rename_i unasked
    exact .flagged unasked
  · rename_i flagged
    split
    · rename_i running
      exact .marked flagged running
    · rename_i elsewhere
      exact .missed flagged elsewhere
  · rename_i unmarked
    exact .returned unmarked
  · exact .still

/-- What a step does to the control of the thread. -/
theorem step_control (c : Capture) (event : CaptureEvent) :
    c.control.Move event (c.step event).2.offered (c.step event).1.control := by
  cases event with
  | proceed => exact c.proceed_control
  | expire => exact c.expire_control
  | letGo =>
    show c.control.Move .letGo c.letGo.2.offered c.letGo.1.control
    unfold letGo
    split
    · rename_i requesting held
      exact endRequest_control requesting fun _ _ => Requester.outcome_of_held held
    · exact .still
  | returned read => exact c.returned_control read
  | stop => exact c.stop_control
  | join =>
    show c.control.Move .join c.join.2.offered c.join.1.control
    unfold join
    split
    · rename_i broken
      exact .joined broken
    · exact .still
  | wake | take | drain | nextRecord => exact .still

/-- What every step keeps of the control of a thread, every run keeps. -/
theorem control_induction (Kept : ThreadControl → Prop)
    (kept : ∀ {h next : ThreadControl} {event : CaptureEvent} {offered : Option Nat},
      h.Move event offered next → Kept h → Kept next)
    {c : Capture} (start : Kept c.control) (events : List CaptureEvent) :
    Kept (c.run events).control := by
  induction events generalizing c with
  | nil => exact start
  | cons event events ih => exact ih (kept (c.step_control event) start)

end Capture

end AudioCapture
