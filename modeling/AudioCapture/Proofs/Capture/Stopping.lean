import AudioCapture.Proofs.Capture.ThreadControl
import AudioCapture.Proofs.Capture.History

/-!
# Stopping a capture thread

Once the stop flag is up, every step that takes the thread anywhere brings it nearer to its end
(`CapturePoint.stepsLeft`), and it begins at most one more read (`CapturePoint.readsLeft`), whatever
the consumer does. A thread whose read and whose request for a priority come back is done after
eight steps of its own (`Capture.stops`).

A request to stop marks the thread as stopping exactly if the thread does not come to run just
between the two attempts to do so (`Capture.state_of_returned`). If it does, it ends without a read.
-/

namespace AudioCapture

/-- How many steps a thread that is to stop takes at most, a whole wait being one. -/
def CapturePoint.stepsLeft : CapturePoint → Nat
  | .ended | .brokenDown => 0
  | .leaving => 1
  | .testing => 2
  | .entering | .signalling => 3
  | .requesting | .recording _ => 4
  | .launched | .storing _ _ => 5
  | .reading _ => 6
  | .granted => 7
  | .waiting => 8

/-- How many reads it begins at most. -/
def CapturePoint.readsLeft : CapturePoint → Nat
  | .waiting | .granted => 1
  | _ => 0

namespace CapturePoint

theorem stepsLeft_le (point : CapturePoint) : point.stepsLeft ≤ 8 := by
  cases point <;> simp [stepsLeft]

theorem readsLeft_le (point : CapturePoint) : point.readsLeft ≤ 1 := by
  cases point <;> simp [readsLeft]

theorem stepsLeft_eq_zero_iff {point : CapturePoint} :
    point.stepsLeft = 0 ↔ point.isFinal = true := by
  cases point <;> simp [stepsLeft, isFinal]

theorem Leads.nearer {point next : CapturePoint} (leads : point.Leads true next) :
    next.stepsLeft < point.stepsLeft ∧ next.readsLeft ≤ point.readsLeft := by
  cases leads with
  | waits flag => cases flag
  | _ => simp [stepsLeft, readsLeft]

end CapturePoint

/-! ## Nearer to the end -/

namespace ThreadControl

variable {h next : ThreadControl} {event : CaptureEvent} {offered : Option Nat}

/-- What a step leaves of a thread that is to stop. -/
structure Nearer (h : ThreadControl) (offered : Option Nat) (next : ThreadControl) : Prop where
  stopping : next.stopFlag = true
  steps : next.point = h.point ∨ next.point.stepsLeft < h.point.stepsLeft
  reads : offered.toList.length + next.point.readsLeft ≤ h.point.readsLeft

theorem Move.nearer (move : h.Move event offered next) (stopping : h.stopFlag = true) :
    h.Nearer offered next := by
  have stays : (none : Option Nat).toList.length + h.point.readsLeft ≤ h.point.readsLeft :=
    Nat.le_of_eq (Nat.zero_add _)
  cases move with
  | still | marked | missed | returned | joined => exact ⟨stopping, .inl rfl, stays⟩
  | flagged => exact ⟨rfl, .inl rfl, stays⟩
  | @went point next here leads =>
    rw [stopping] at leads
    subst here
    obtain ⟨steps, reads⟩ := leads.nearer
    exact ⟨stopping, .inr steps, Nat.le_trans (Nat.le_of_eq (Nat.zero_add _)) reads⟩
  | began free here | entered here | left here =>
    refine ⟨stopping, .inr ?_, ?_⟩ <;> simp [here, CapturePoint.stepsLeft, CapturePoint.readsLeft]
  | brokeDown here =>
    refine ⟨stopping, .inr ?_, Nat.zero_le _⟩
    rcases here with ⟨here, -⟩ | ⟨⟨free, here⟩, -⟩ <;> simp [here, CapturePoint.stepsLeft]

end ThreadControl

namespace Capture

variable {c : Capture}

/-- The room that was offered to the reads that begin in a run, in order. -/
def offers (c : Capture) (events : List CaptureEvent) : List Nat :=
  (c.replies events).filterMap CaptureReply.offered

theorem offers_cons (c : Capture) (event : CaptureEvent) (events : List CaptureEvent) :
    c.offers (event :: events) =
      (c.step event).2.offered.toList ++ (c.step event).1.offers events := by
  unfold offers
  rw [replies]
  cases offered : (c.step event).2.offered <;> simp [offered]

theorem offers_append (c : Capture) (first second : List CaptureEvent) :
    c.offers (first ++ second) = c.offers first ++ (c.run first).offers second := by
  rw [offers, replies_append, List.filterMap_append]
  rfl

theorem step_nearer (stopping : c.stopFlag = true) (event : CaptureEvent) :
    c.control.Nearer (c.step event).2.offered (c.step event).1.control :=
  (c.step_control event).nearer stopping

/-- What is left of a thread that is to stop after any run. -/
theorem run_nearer (stopping : c.stopFlag = true) (events : List CaptureEvent) :
    (c.run events).stopFlag = true ∧ (c.run events).point.stepsLeft ≤ c.point.stepsLeft ∧
      (c.offers events).length + (c.run events).point.readsLeft ≤ c.point.readsLeft := by
  induction events generalizing c with
  | nil => exact ⟨stopping, Nat.le_refl _, Nat.le_of_eq (Nat.zero_add _)⟩
  | cons event events ih =>
    have nearer := step_nearer stopping event
    obtain ⟨stops, steps, reads⟩ := ih (c := (c.step event).1) nearer.stopping
    have first : (c.step event).1.point.stepsLeft ≤ c.point.stepsLeft := by
      rcases nearer.steps with same | lower
      · exact Nat.le_of_eq (congrArg CapturePoint.stepsLeft same)
      · exact Nat.le_of_lt lower
    have begun : (c.step event).2.offered.toList.length + (c.step event).1.point.readsLeft ≤
        c.point.readsLeft := nearer.reads
    refine ⟨stops, Nat.le_trans steps first, ?_⟩
    rw [offers_cons, List.length_append]
    show _ + ((c.step event).1.run events).point.readsLeft ≤ _
    omega

/-- A thread with no read left to begin begins none. -/
theorem offers_eq_nil (stopping : c.stopFlag = true) (none : c.point.readsLeft = 0)
    (events : List CaptureEvent) : c.offers events = [] := by
  have reads := (run_nearer stopping events).2.2
  rw [none] at reads
  exact List.eq_nil_of_length_eq_zero (by omega)

/-- A thread that has come to its end, or broken down, stays where it is. -/
theorem point_run_of_isFinal (final : c.point.isFinal = true) (events : List CaptureEvent) :
    (c.run events).point = c.point :=
  control_induction (fun h => h.point = c.point)
    (fun move same => (move.point_of_isFinal (same ▸ final)).trans same) rfl events

/-! ## Steps of its own -/

/-- The next step of the thread: a wait ends, a read comes back, a held request is let go. -/
def due (c : Capture) (read : DeviceRead) : CaptureEvent :=
  match c.point with
  | .waiting => .expire
  | .reading _ => .returned read
  | .requesting =>
      match c.requester.request c.priority with
      | .held => .letGo
      | _ => .proceed
  | _ => .proceed

theorem point_endRequest_ne {ends : RequestEnd} (unheld : ends ≠ .held) :
    (c.endRequest ends).1.point ≠ .requesting := by
  unfold endRequest
  split
  · simp
  · simp
  · exact absurd rfl unheld
  · simp

/-- A thread that has not come to its end is elsewhere after its next step. -/
theorem point_due_ne (going : c.point.isFinal = false) (read : DeviceRead) :
    (c.step (c.due read)).1.point ≠ c.point := by
  cases point : c.point with
  | launched =>
    simp only [due, point, step, proceed]
    split <;> simp
  | requesting =>
    simp only [due, point]
    split
    · rename_i held
      simp only [step, letGo, point, held]
      exact point_endRequest_ne (c.requester.release_ne_held c.priority)
    · rename_i unheld
      simp only [step, proceed, point, request]
      exact point_endRequest_ne unheld
  | testing =>
    simp only [due, point, step, proceed]
    split <;> simp
  | waiting =>
    simp only [due, point, step, expire, lookForGrant]
    split <;> simp
  | reading free =>
    simp only [due, point, step, returned]
    split <;> simp
  | recording outcome =>
    simp only [due, point, step, proceed, publishRecord]
    split <;> simp
  | entering | granted | storing | signalling | leaving =>
    simp only [due, point, step, proceed, publish]
    simp
  | ended | brokenDown =>
    rw [point] at going
    cases going

theorem stepsLeft_due_lt (stopping : c.stopFlag = true) (going : c.point.isFinal = false)
    (read : DeviceRead) : (c.step (c.due read)).1.point.stepsLeft < c.point.stepsLeft :=
  (step_nearer stopping (c.due read)).steps.resolve_left (point_due_ne going read)

theorem stepsLeft_due (stopping : c.stopFlag = true) (read : DeviceRead) :
    (c.step (c.due read)).1.point.stepsLeft ≤ c.point.stepsLeft - 1 := by
  cases going : c.point.isFinal with
  | true =>
    have same : (c.step (c.due read)).1.point = c.point :=
      (c.step_control (c.due read)).point_of_isFinal going
    have none : (c.step (c.due read)).1.point.stepsLeft = 0 := by
      rw [same]
      exact CapturePoint.stepsLeft_eq_zero_iff.2 going
    exact Nat.le_trans (Nat.le_of_eq none) (Nat.zero_le _)
  | false => exact Nat.le_sub_one_of_lt (stepsLeft_due_lt stopping going read)

/-- A step of the thread, with what happens before it. -/
structure Round where
  meanwhile : List CaptureEvent
  /-- What comes back of the read that the thread is in. -/
  read : DeviceRead

/-- No read takes the thread with it. -/
def Round.ComesBack (round : Round) : Prop :=
  (∀ event ∈ round.meanwhile, event.breaks = false) ∧ round.read.ending ≠ .brokeDown

def goOn (c : Capture) : List Round → Capture
  | [] => c
  | round :: rounds =>
      let before := c.run round.meanwhile
      (before.step (before.due round.read)).1.goOn rounds

/-- What happens while a thread takes steps of its own. -/
def onward (c : Capture) : List Round → List CaptureEvent
  | [] => []
  | round :: rounds =>
      let before := c.run round.meanwhile
      let event := before.due round.read
      round.meanwhile ++ event :: (before.step event).1.onward rounds

theorem run_onward (c : Capture) (rounds : List Round) :
    c.run (c.onward rounds) = c.goOn rounds := by
  induction rounds generalizing c with
  | nil => rfl
  | cons round rounds ih =>
    rw [onward, run_append]
    exact ih _

/-- What every step keeps of the control of a thread, the thread keeps as it goes on. -/
theorem goOn_induction (Kept : ThreadControl → Prop)
    (kept : ∀ {h next : ThreadControl} {event : CaptureEvent} {offered : Option Nat},
      h.Move event offered next → Kept h → Kept next)
    {c : Capture} (start : Kept c.control) (rounds : List Round) :
    Kept (c.goOn rounds).control := by
  rw [← run_onward]
  exact control_induction Kept kept start (c.onward rounds)

end Capture

/-! ## The end -/

namespace ThreadControl

variable {h next : ThreadControl} {event : CaptureEvent} {offered : Option Nat}

/-- A thread that has come to its end shows it. -/
def ShowsEnd (h : ThreadControl) : Prop := h.point = .ended → h.state = .exited

theorem ShowsEnd.move (shows : h.ShowsEnd) (move : h.Move event offered next) :
    next.ShowsEnd := by
  cases move with
  | still | flagged | missed => exact shows
  | @went point next here leads =>
    intro ended
    change next = .ended at ended
    subst ended
    cases leads
  | began | brokeDown | entered => exact nofun
  | left | joined => exact fun _ => rfl
  | marked flagged running =>
    intro ended
    exact absurd (running.symm.trans (shows ended)) nofun
  | returned unmarked =>
    intro ended
    have exited := shows ended
    show (if h.state = .created then _ else h.state) = _
    rw [exited]
    rfl

/-- Nothing that the thread is in, or comes to, takes it with it. -/
structure Unbroken (h : ThreadControl) : Prop where
  answered : ∀ cause, h.request ≠ .brokeDown cause
  unbroken : h.point ≠ .brokenDown

theorem Unbroken.move (unbroken : h.Unbroken) (move : h.Move event offered next)
    (comesBack : event.breaks = false) : next.Unbroken := by
  obtain ⟨answered, unbroken⟩ := unbroken
  cases move with
  | still | flagged | marked | missed | returned | joined => exact ⟨answered, unbroken⟩
  | @went point next here leads =>
    refine ⟨answered, ?_⟩
    rintro rfl
    cases leads
  | began | entered | left => exact ⟨answered, nofun⟩
  | brokeDown broke =>
    rcases broke with ⟨-, cause, broke⟩ | ⟨-, broke⟩
    · exact absurd broke (answered cause)
    · exact absurd (comesBack.symm.trans broke) nofun

end ThreadControl

namespace Capture

variable {c : Capture}

theorem showsEnd_run (shows : c.control.ShowsEnd) (events : List CaptureEvent) :
    (c.run events).control.ShowsEnd :=
  control_induction ThreadControl.ShowsEnd (fun move shows => shows.move move) shows events

theorem unbroken_run (unbroken : c.control.Unbroken) {events : List CaptureEvent}
    (comeBack : ∀ event ∈ events, event.breaks = false) : (c.run events).control.Unbroken := by
  induction events generalizing c with
  | nil => exact unbroken
  | cons event events ih =>
    exact ih (unbroken.move (c.step_control event) (comeBack event List.mem_cons_self))
      fun later member => comeBack later (List.mem_cons_of_mem event member)

theorem breaks_due (c : Capture) {read : DeviceRead} (comesBack : read.ending ≠ .brokeDown) :
    (c.due read).breaks = false := by
  unfold due
  split
  · rfl
  · exact decide_eq_false comesBack
  · split <;> rfl
  · rfl

theorem unbroken_goOn (unbroken : c.control.Unbroken) {rounds : List Round}
    (comeBack : ∀ round ∈ rounds, round.ComesBack) : (c.goOn rounds).control.Unbroken := by
  induction rounds generalizing c with
  | nil => exact unbroken
  | cons round rounds ih =>
    obtain ⟨around, read⟩ := comeBack round List.mem_cons_self
    refine ih ?_ fun later member => comeBack later (List.mem_cons_of_mem round member)
    exact (unbroken_run unbroken around).move (step_control _ _) (breaks_due _ read)

theorem stepsLeft_goOn (stopping : c.stopFlag = true) (rounds : List Round) :
    (c.goOn rounds).point.stepsLeft ≤ c.point.stepsLeft - rounds.length := by
  induction rounds generalizing c with
  | nil => exact Nat.le_refl _
  | cons round rounds ih =>
    obtain ⟨stops, steps, -⟩ := run_nearer stopping round.meanwhile
    have lower := stepsLeft_due stops round.read
    have rest := ih (step_nearer stops ((c.run round.meanwhile).due round.read)).stopping
    show (((c.run round.meanwhile).step _).1.goOn rounds).point.stepsLeft ≤ _
    rw [List.length_cons]
    omega

/-- A thread that is to stop takes no more steps after as many of its own as it has left. -/
theorem isFinal_goOn (stopping : c.stopFlag = true) {rounds : List Round}
    (enough : c.point.stepsLeft ≤ rounds.length) : (c.goOn rounds).point.isFinal = true := by
  have none := stepsLeft_goOn stopping rounds
  exact CapturePoint.stepsLeft_eq_zero_iff.1 (by omega)

/-- A thread that is to stop, and that nothing takes with it, comes to its end. -/
theorem state_goOn (stopping : c.stopFlag = true) (shows : c.control.ShowsEnd)
    (unbroken : c.control.Unbroken) {rounds : List Round}
    (comeBack : ∀ round ∈ rounds, round.ComesBack)
    (enough : c.point.stepsLeft ≤ rounds.length) : (c.goOn rounds).state = .exited := by
  have final := isFinal_goOn stopping enough
  have unbroken := unbroken_goOn unbroken comeBack
  refine goOn_induction ThreadControl.ShowsEnd (fun move shows => shows.move move) shows rounds ?_
  show (c.goOn rounds).point = .ended
  cases point : (c.goOn rounds).point with
  | ended => rfl
  | brokenDown => exact absurd point unbroken.unbroken
  | _ =>
    rw [point] at final
    cases final

/-! ## Every thread that is to stop -/

/-- What a thread that is to stop does from now on, however its steps fall between those of
others. -/
structure Stops (c : Capture) : Prop where
  /-- At most one more read begins. -/
  reads : ∀ events, (c.offers events).length ≤ 1
  /-- No step takes the thread anywhere but nearer to its end. -/
  steps : ∀ events event, let before := c.run events
    (before.step event).1.point = before.point ∨
      (before.step event).1.point.stepsLeft < before.point.stepsLeft
  /-- Each step of its own takes it nearer, if it is not there. -/
  own : ∀ events read, let before := c.run events
    before.point.isFinal = false →
      (before.step (before.due read)).1.point.stepsLeft < before.point.stepsLeft
  /-- Eight steps of its own bring it there, unless a read or its request takes it with it. -/
  exits : (∀ cause, c.requester.outcome c.priority ≠ .brokeDown cause) → c.point ≠ .brokenDown →
    ∀ rounds : List Round, (∀ round ∈ rounds, round.ComesBack) → 8 ≤ rounds.length →
      (c.goOn rounds).state = .exited

theorem stops {chunkSize chunkCount : Nat} {priority : ThreadPriority} {requester : Requester}
    (events : List CaptureEvent)
    (stopping : ((fresh chunkSize chunkCount priority requester).run events).stopFlag = true) :
    ((fresh chunkSize chunkCount priority requester).run events).Stops := by
  have shows := showsEnd_run (c := fresh chunkSize chunkCount priority requester) nofun events
  generalize (fresh chunkSize chunkCount priority requester).run events = c at stopping shows
  refine ⟨?_, ?_, ?_, ?_⟩
  · intro later
    obtain ⟨-, -, reads⟩ := run_nearer stopping later
    have most := c.point.readsLeft_le
    omega
  · intro later event
    exact (step_nearer (run_nearer stopping later).1 event).steps
  · intro later read before going
    exact stepsLeft_due_lt (run_nearer stopping later).1 going read
  · intro answered unbroken rounds comeBack enough
    exact state_goOn stopping shows ⟨answered, unbroken⟩ comeBack
      (Nat.le_trans c.point.stepsLeft_le enough)

end Capture

/-! ## The mark -/

namespace ThreadControl

variable {h next : ThreadControl} {event : CaptureEvent} {offered : Option Nat}

/-- How far a request to stop can have got, by where the thread stands and the state it shows. -/
structure Marked (h : ThreadControl) : Prop where
  flagged : h.stopPoint ≠ .unasked → h.stopFlag = true
  /-- The thread has come to run after the first attempt to mark it. -/
  overtaken : h.stopPoint = .unmarked ∨ h.stopPoint = .returned → h.state = .running →
    h.point = .testing ∨ h.point = .leaving
  tried : h.stopPoint = .returned → h.state ≠ .created

theorem Marked.move (marked : h.Marked) (move : h.Move event offered next) : next.Marked := by
  obtain ⟨flagged, overtaken, tried⟩ := marked
  cases move with
  | still => exact ⟨flagged, overtaken, tried⟩
  | @went point next here leads =>
    refine ⟨flagged, ?_, tried⟩
    intro asked running
    have already : h.stopPoint ≠ .unasked := by
      rcases asked with asked | asked
      · exact asked ▸ nofun
      · exact asked ▸ nofun
    rw [flagged already] at leads
    rcases overtaken asked running with there | there <;> obtain rfl := here.symm.trans there
    · cases leads with
      | stops => exact .inr rfl
      | waits down => cases down
    · cases leads
  | began free here =>
    refine ⟨flagged, ?_, tried⟩
    intro asked running
    rcases overtaken asked running with there | there <;> cases here.symm.trans there
  | brokeDown broke =>
    refine ⟨flagged, ?_, tried⟩
    intro asked running
    rcases broke with ⟨here, -⟩ | ⟨⟨free, here⟩, -⟩ <;>
      rcases overtaken asked running with there | there <;> cases here.symm.trans there
  | entered here =>
    refine ⟨flagged, fun _ _ => .inl rfl, ?_⟩
    intro asked
    show (if h.state = .created then .running else h.state) ≠ .created
    rw [if_neg (tried asked)]
    exact tried asked
  | left => exact ⟨flagged, fun _ => nofun, fun _ => nofun⟩
  | flagged => exact ⟨fun _ => rfl, nofun, nofun⟩
  | marked asked => exact ⟨fun _ => flagged (asked ▸ nofun), fun _ => nofun, fun _ => nofun⟩
  | missed asked elsewhere =>
    exact ⟨fun _ => flagged (asked ▸ nofun), fun _ running => absurd running elsewhere, nofun⟩
  | returned asked =>
    refine ⟨fun _ => flagged (asked ▸ nofun), ?_, ?_⟩
    · intro _ running
      change (if h.state = .created then .stopping else h.state) = _ at running
      split at running
      · cases running
      · exact overtaken (.inl asked) running
    · intro _
      show (if h.state = .created then .stopping else h.state) ≠ .created
      split
      · nofun
      · assumption
  | joined => exact ⟨flagged, fun _ => nofun, fun _ => nofun⟩

/-- Both attempts to mark the thread have missed it, or the second is about to: it runs. -/
def Missed (h : ThreadControl) : Prop :=
  (h.stopPoint = .unmarked ∨ h.stopPoint = .returned) ∧ h.state = .running

/-- The only step that has a request miss the thread: it comes to run between the two attempts. -/
theorem Marked.between_of_missed (marked : h.Marked) (move : h.Move event offered next)
    (before : ¬h.Missed) (missed : next.Missed) :
    h.stopPoint = .unmarked ∧ h.state = .created := by
  obtain ⟨asked, running⟩ := missed
  cases move with
  | still | went | began | brokeDown => exact absurd ⟨asked, running⟩ before
  | entered here =>
    cases state : h.state with
    | created =>
      have unmarked : h.stopPoint = .unmarked :=
        asked.resolve_right fun returned => marked.tried returned state
      exact ⟨unmarked, rfl⟩
    | running => exact absurd ⟨asked, state⟩ before
    | stopping | exited => simp [state] at running
  | left | marked | joined => cases running
  | flagged => simp at asked
  | missed flagged elsewhere => exact absurd running elsewhere
  | returned unmarked =>
    refine absurd ⟨.inl unmarked, ?_⟩ before
    cases state : h.state <;> simp [state] at running
    rfl

/-- A thread that has come to run between the two attempts to mark it. -/
structure Overtaken (h : ThreadControl) : Prop where
  flagged : h.stopFlag = true
  asked : h.stopPoint = .unmarked ∨ h.stopPoint = .returned
  place : h.state = .running ∧ (h.point = .testing ∨ h.point = .leaving) ∨
    h.state = .exited ∧ h.point = .ended

/-- The thread comes to run while the request stands between its two attempts. -/
theorem Marked.overtaken_of_between (marked : h.Marked) (move : h.Move event offered next)
    (unmarked : h.stopPoint = .unmarked) (created : h.state = .created)
    (running : next.state = .running) : next.Overtaken := by
  have flagged : h.stopFlag = true := marked.flagged (by simp [unmarked])
  cases move with
  | entered => exact ⟨flagged, .inl unmarked, .inl ⟨running, .inl rfl⟩⟩
  | still | went | began | brokeDown | flagged | missed =>
    exact absurd (created.symm.trans running) (by simp)
  | left | marked | joined => cases running
  | returned => simp [created] at running

theorem Overtaken.move (overtaken : h.Overtaken) (move : h.Move event offered next) :
    next.Overtaken := by
  obtain ⟨flagged, asked, place⟩ := overtaken
  have onTheWay : ∀ {point : CapturePoint}, h.point = point →
      point = .testing ∨ point = .leaving ∨ point = .ended := by
    rintro point rfl
    rcases place with ⟨-, here | here⟩ | ⟨-, here⟩ <;> simp [here]
  cases move with
  | still => exact ⟨flagged, asked, place⟩
  | @went point next here leads =>
    rw [flagged] at leads
    cases leads with
    | stops =>
      have running : h.state = .running := by
        rcases place with ⟨running, -⟩ | ⟨-, ended⟩
        · exact running
        · cases here.symm.trans ended
      exact ⟨flagged, asked, .inl ⟨running, .inr rfl⟩⟩
    | waits down => cases down
    | _ => simpa using onTheWay here
  | began free here => simpa using onTheWay here
  | entered here => simpa using onTheWay here
  | joined here => simpa using onTheWay here
  | brokeDown broke =>
    rcases broke with ⟨here, -⟩ | ⟨⟨free, here⟩, -⟩ <;> simpa using onTheWay here
  | left => exact ⟨flagged, asked, .inr ⟨rfl, rfl⟩⟩
  | flagged unasked => simp [unasked] at asked
  | marked first => simp [first] at asked
  | missed first => simp [first] at asked
  | returned =>
    refine ⟨flagged, .inr rfl, ?_⟩
    rcases place with ⟨running, here⟩ | ⟨exited, here⟩
    · exact .inl ⟨by simp [running], here⟩
    · exact .inr ⟨by simp [exited], here⟩

theorem Overtaken.readsLeft (overtaken : h.Overtaken) : h.point.readsLeft = 0 := by
  rcases overtaken.place with ⟨-, here | here⟩ | ⟨-, here⟩ <;> rw [here] <;> rfl

theorem Overtaken.stepsLeft_le (overtaken : h.Overtaken) : h.point.stepsLeft ≤ 2 := by
  rcases overtaken.place with ⟨-, here | here⟩ | ⟨-, here⟩ <;> simp [here, CapturePoint.stepsLeft]

theorem Overtaken.exited (overtaken : h.Overtaken) (final : h.point.isFinal = true) :
    h.state = .exited := by
  rcases overtaken.place with ⟨-, here | here⟩ | ⟨exited, -⟩
  · simp [here, CapturePoint.isFinal] at final
  · simp [here, CapturePoint.isFinal] at final
  · exact exited

end ThreadControl

namespace Capture

theorem marked_run {c : Capture} (marked : c.control.Marked) (events : List CaptureEvent) :
    (c.run events).control.Marked :=
  control_induction ThreadControl.Marked (fun move marked => marked.move move) marked events

/-- A request to stop puts the flag up, if it is not up already. -/
theorem stopFlag_requestStop {c : Capture} (marked : c.control.Marked) :
    c.requestStop.stopFlag = true := by
  have first : c.stop.stopFlag = true := by
    cases asked : c.stopPoint with
    | unasked => simp only [stop, asked]
    | flagged | unmarked | returned =>
      have already : c.stopPoint ≠ .unasked := by simp [asked]
      exact (step_nearer (marked.flagged already) .stop).stopping
  exact (run_nearer first [.stop, .stop]).1

/-- A request to stop marks a thread that has not come to run. -/
theorem state_requestStop {c : Capture} (marked : c.control.Marked) (created : c.state = .created) :
    c.requestStop.state = .stopping := by
  cases asked : c.stopPoint with
  | returned => exact absurd created (marked.tried asked)
  | unasked | flagged | unmarked => simp [requestStop, stop, asked, created]

/-- The thread comes to run just between the two attempts of a request to stop to mark it. -/
def Overtakes (c : Capture) (events : List CaptureEvent) : Prop :=
  ∃ before event after, events = before ++ event :: after ∧
    (c.run before).stopPoint = .unmarked ∧ (c.run before).state = .created ∧
      ((c.run before).step event).1.state = .running

theorem overtakes_of_missed {c : Capture} (marked : c.control.Marked) (calm : ¬c.control.Missed)
    {events : List CaptureEvent} (missed : (c.run events).control.Missed) : c.Overtakes events := by
  induction events generalizing c with
  | nil => exact absurd missed calm
  | cons event events ih =>
    have move := c.step_control event
    by_cases first : (c.step event).1.control.Missed
    · obtain ⟨unmarked, created⟩ := marked.between_of_missed move calm first
      exact ⟨[], event, events, rfl, unmarked, created, first.2⟩
    · obtain ⟨before, later, after, rfl, between⟩ := ih (marked.move move) first missed
      exact ⟨event :: before, later, after, rfl, between⟩

theorem overtaken_of_overtakes {c : Capture} (marked : c.control.Marked)
    {events : List CaptureEvent} (overtakes : c.Overtakes events) :
    (c.run events).control.Overtaken := by
  obtain ⟨before, event, after, rfl, unmarked, created, running⟩ := overtakes
  rw [run_append]
  exact control_induction ThreadControl.Overtaken (fun move overtaken => overtaken.move move)
    ((marked_run marked before).overtaken_of_between (step_control _ event) unmarked created
      running)
    after

/-- A request to stop that has returned has marked the thread as stopping, or the thread has ended,
exactly if it did not come to run just between the two attempts to mark it. If it did, it is about
to see the stop flag, or has seen it: it begins no read any more and is done after two steps of its
own. -/
theorem state_of_returned {chunkSize chunkCount : Nat} {priority : ThreadPriority}
    {requester : Requester} {events : List CaptureEvent} :
    let start := fresh chunkSize chunkCount priority requester
    let c := start.run events
    c.stopPoint = .returned →
      c.state ≠ .created ∧
      (c.state = .stopping ∨ c.state = .exited ↔ ¬(start.Overtakes events ∧ c.point ≠ .ended)) ∧
      (start.Overtakes events → (∀ later, c.offers later = []) ∧
        ∀ rounds : List Round, 2 ≤ rounds.length → (c.goOn rounds).state = .exited) := by
  intro start c asked
  have marked : start.control.Marked := ⟨nofun, nofun, nofun⟩
  have calm : ¬start.control.Missed := by simp [start, control, fresh, ThreadControl.Missed]
  have markedNow : c.control.Marked := marked_run marked events
  refine ⟨markedNow.tried asked, ⟨?_, ?_⟩, ?_⟩
  · rintro shown ⟨overtakes, going⟩
    rcases (overtaken_of_overtakes marked overtakes).place with ⟨running, -⟩ | ⟨-, ended⟩
    · have running : c.state = .running := running
      simp [running] at shown
    · exact going ended
  · intro notOvertaken
    cases state : c.state with
    | created => exact absurd state (markedNow.tried asked)
    | stopping => exact .inl rfl
    | exited => exact .inr rfl
    | running =>
      have there : c.point = .testing ∨ c.point = .leaving :=
        markedNow.overtaken (.inr asked) state
      refine absurd ⟨overtakes_of_missed marked calm ⟨.inr asked, state⟩, ?_⟩ notOvertaken
      rcases there with there | there <;> simp [there]
  · intro overtakes
    have overtaken : c.control.Overtaken := overtaken_of_overtakes marked overtakes
    refine ⟨offers_eq_nil overtaken.flagged overtaken.readsLeft, ?_⟩
    intro rounds enough
    have later : (c.goOn rounds).control.Overtaken :=
      goOn_induction ThreadControl.Overtaken (fun move overtaken => overtaken.move move) overtaken
        rounds
    exact later.exited (isFinal_goOn overtaken.flagged (Nat.le_trans overtaken.stepsLeft_le enough))

/-- A request to stop whose two attempts the thread overtakes: it comes to run when it has just been
found not to, and shows that it runs when the request has returned. -/
theorem state_overtaking :
    let c := (fresh 2 2 .normal .ignoring).run [.proceed, .stop, .stop, .proceed, .stop]
    c.stopPoint = .returned ∧ c.state = .running := by decide

theorem state_of_returned_overtaken :
    let start := fresh 2 2 .normal .ignoring
    let c := start.run [.proceed, .stop, .stop, .proceed, .stop]
    c.stopPoint = .returned ∧ c.state ≠ .created ∧
      start.Overtakes [.proceed, .stop, .stop, .proceed, .stop] ∧
      (∀ later, c.offers later = []) ∧
        ∀ rounds : List Round, 2 ≤ rounds.length → (c.goOn rounds).state = .exited := by
  intro start c
  have asked : c.stopPoint = .returned := by decide
  obtain ⟨tried, -, rest⟩ := @state_of_returned 2 2 .normal .ignoring
    [.proceed, .stop, .stop, .proceed, .stop] asked
  have overtakes : start.Overtakes [.proceed, .stop, .stop, .proceed, .stop] :=
    ⟨[.proceed, .stop, .stop], .proceed, [.stop], rfl, by decide⟩
  exact ⟨asked, tried, overtakes, rest overtakes⟩

end Capture

end AudioCapture
