import AudioCapture.Proofs.Capture.ByteStream
import AudioCapture.Proofs.Capture.Counting
import AudioCapture.Proofs.Capture.Requests

/-!
# What a capture thread logs of its losses

A thread warns of a priority that it was refused, of every read that failed, of every data write
that fell short and of every outcome that was dropped, once each and in order, and of nothing else
(`Observed.loggedExactly_history`). So its lines are as many as its counts of losses say
(`Capture.tells_run`).

* `Observed.lines` — the warnings that the history of a capture calls for;
* `LoggedExactly.lines_step` — a step logs exactly those that it adds to them.
-/

namespace AudioCapture

namespace Notice

/-- More than what is of use to developers. -/
def isLoud (notice : Notice) : Bool := decide (notice.level ≠ .debug)

def isReadFailure : Notice → Bool
  | .deviceCallFailed operation _ => operation == "read"
  | _ => false

/-- Whether a notice is that of a short write. -/
def isShort : Notice → Bool
  | .writeShort .. => true
  | _ => false

def isDrop : Notice → Bool
  | .recordDropped _ => true
  | _ => false

end Notice

namespace Capture

variable {c : Capture}

/-! ## The log of the thread -/

/-- What the thread logs in a step. What a join notices is logged by whoever joins. -/
def remark (c : Capture) : CaptureEvent → List Notice
  | .join => []
  | event => (c.step event).2.notices

theorem remark_eq_notices {event : CaptureEvent} (unjoined : event ≠ .join) :
    c.remark event = (c.step event).2.notices := by
  cases event with
  | join => exact absurd rfl unjoined
  | _ => rfl

/-- What the thread logs in a run, in order. -/
def remarks (c : Capture) : List CaptureEvent → List Notice
  | [] => []
  | event :: events => c.remark event ++ (c.step event).1.remarks events

theorem remarks_append (c : Capture) (first second : List CaptureEvent) :
    c.remarks (first ++ second) = c.remarks first ++ (c.run first).remarks second := by
  induction first generalizing c with
  | nil => rfl
  | cons event events ih => simp [remarks, run, ih]

theorem remarks_concat (c : Capture) (events : List CaptureEvent) (event : CaptureEvent) :
    c.remarks (events ++ [event]) = c.remarks events ++ (c.run events).remark event := by
  rw [remarks_append, remarks, remarks, List.append_nil]

theorem notices_lookForGrant (c expired : Capture) : (c.lookForGrant expired).2.notices = [] := by
  unfold lookForGrant
  dsimp only
  split <;> rfl

/-- The data write warns of what there was no room for, if the room that was offered is still
there. -/
theorem notices_publish {free : Nat} (room : free ≤ c.data.ring.free) (reported : Nat) :
    (c.publish free reported).2.notices =
      if free < reported then [.writeShort free reported free] else [] := by
  have written : (c.data.ring.writeFrom (min reported free) c.buffer.byte?).2 =
      min reported free := by
    show min (min reported free) c.data.ring.free = _
    omega
  have short : min reported free < reported ↔ free < reported := by omega
  simp only [publish, written, short]
  split
  · rw [Nat.min_eq_right (by omega)]
  · rfl

theorem notices_publishRecord (c : Capture) (outcome : ReadOutcome) :
    (c.publishRecord outcome).2.notices =
      if 0 < c.records.free then [] else [.recordDropped outcome] := by
  unfold publishRecord
  by_cases room : 0 < c.records.free <;> simp [room]

/-- Between iterations the thread logs nothing, but for the answer to its request. -/
theorem notices_proceed_of_between (between : c.point.isBetween = true)
    (unasked : c.point ≠ .requesting) : c.proceed.2.notices = [] := by
  cases point : c.point with
  | requesting => exact absurd point unasked
  | launched =>
    simp only [proceed, point]
    split <;> rfl
  | waiting => simp only [proceed, point, notices_lookForGrant]
  | entering | testing | granted | leaving | ended => simp only [proceed, point]
  | reading | storing | recording | signalling | brokenDown =>
    rw [point] at between
    cases between

/-- A step that is not one of the thread logs nothing, nor does the end of a wait. -/
theorem remark_eq_nil {event : CaptureEvent} (unproceeding : event ≠ .proceed)
    (unreturned : ∀ read, event ≠ .returned read) (held : event ≠ .letGo) :
    c.remark event = [] := by
  cases event with
  | proceed => exact absurd rfl unproceeding
  | returned read => exact absurd rfl (unreturned read)
  | letGo => exact absurd rfl held
  | expire =>
    show c.expire.2.notices = []
    unfold expire
    split
    · exact c.notices_lookForGrant _
    · rfl
  | stop | join | wake | take | drain | nextRecord => rfl

end Capture

/-! ## Lines and counts -/

/-- What is added to the counts of losses is what is logged of them. -/
structure Tally.Tells (before after : Tally) (said : List Notice) : Prop where
  readErrors : after.readErrors = before.readErrors + said.countP Notice.isReadFailure
  shortWrites : after.shortWrites = before.shortWrites + said.countP Notice.isShort
  statusDrops : after.statusDrops = before.statusDrops + said.countP Notice.isDrop

theorem Tally.Tells.append {first second third : Tally} {said more : List Notice}
    (h : first.Tells second said) (k : second.Tells third more) :
    first.Tells third (said ++ more) := by
  refine ⟨?_, ?_, ?_⟩
  · rw [k.readErrors, h.readErrors, List.countP_append, Nat.add_assoc]
  · rw [k.shortWrites, h.shortWrites, List.countP_append, Nat.add_assoc]
  · rw [k.statusDrops, h.statusDrops, List.countP_append, Nat.add_assoc]

theorem Tally.Tells.still (tally : Tally) : tally.Tells tally [] := ⟨rfl, rfl, rfl⟩

namespace Capture

variable {c : Capture}

theorem tells_endRequest (c : Capture) (ends : RequestEnd) :
    c.tally.Tells (c.endRequest ends).1.tally (c.endRequest ends).2.notices := by
  rw [c.tally_endRequest]
  unfold endRequest
  split
  · unfold Requester.notices
    split <;> exact ⟨rfl, rfl, rfl⟩
  all_goals exact ⟨rfl, rfl, rfl⟩

theorem tells_publish (c : Capture) (free reported : Nat) :
    c.tally.Tells (c.publish free reported).1.tally (c.publish free reported).2.notices := by
  unfold publish
  dsimp only
  split <;> exact ⟨rfl, rfl, rfl⟩

theorem tells_publishRecord (c : Capture) (outcome : ReadOutcome) :
    c.tally.Tells (c.publishRecord outcome).1.tally (c.publishRecord outcome).2.notices := by
  unfold publishRecord
  dsimp only
  split <;> exact ⟨rfl, rfl, rfl⟩

theorem tells_proceed (c : Capture) : c.tally.Tells c.proceed.1.tally c.proceed.2.notices := by
  unfold proceed
  split
  · split <;> exact .still _
  · exact c.tells_endRequest _
  · exact .still _
  · exact .still _
  · rw [or_self_iff.1 (c.tally_lookForGrant c), c.notices_lookForGrant]
    exact .still _
  · exact ⟨rfl, rfl, rfl⟩
  · exact c.tells_publish _ _
  · exact c.tells_publishRecord _
  all_goals exact .still _

theorem tells_returned (c : Capture) (read : DeviceRead) :
    c.tally.Tells (c.returned read).1.tally (c.returned read).2.notices := by
  unfold returned
  split
  · dsimp only
    split <;> exact ⟨rfl, rfl, rfl⟩
  · exact .still _

theorem tells_step (c : Capture) (event : CaptureEvent) :
    c.tally.Tells (c.step event).1.tally (c.remark event) := by
  cases event with
  | proceed => exact c.tells_proceed
  | returned read => exact c.tells_returned read
  | expire =>
    rw [remark_eq_nil (by simp) (by simp) (by simp)]
    show c.tally.Tells c.expire.1.tally []
    rcases c.tally_expire with same | more
    · rw [same]
      exact .still _
    · rw [more]
      exact ⟨rfl, rfl, rfl⟩
  | letGo =>
    show c.tally.Tells c.letGo.1.tally c.letGo.2.notices
    unfold letGo
    split
    · exact c.tells_endRequest _
    · exact .still _
  | stop =>
    show c.tally.Tells c.stop.tally []
    rw [c.tally_stop]
    exact .still _
  | join =>
    show c.tally.Tells c.join.1.tally []
    rw [c.tally_join]
    exact .still _
  | wake | take | drain | nextRecord => exact .still _

/-- The lines of a run are as many as it adds to the counts of losses. -/
theorem tells_run (c : Capture) (events : List CaptureEvent) :
    c.tally.Tells (c.run events).tally (c.remarks events) := by
  induction events generalizing c with
  | nil => exact .still _
  | cons event events ih => exact (c.tells_step event).append (ih _)

/-! ## The request for a priority -/

/-- What a thread has to say that has got past its request for an elevated priority: an answer that
turns it down. -/
def elevationLines (c : Capture) : List Notice :=
  if c.priority.isElevated = true ∧ c.point.isAhead = false then
    match c.requester.outcome c.priority with
    | .answered (.error error) => [.elevationFailed c.priority error]
    | _ => []
  else []

theorem elevationLines_of_ahead (ahead : c.point.isAhead = true) : c.elevationLines = [] :=
  if_neg fun past => absurd (past.2.symm.trans ahead) Bool.false_ne_true

theorem elevationLines_congr {next : Capture} (requester : next.requester = c.requester)
    (priority : next.priority = c.priority) (ahead : next.point.isAhead = c.point.isAhead) :
    next.elevationLines = c.elevationLines := by
  unfold elevationLines
  rw [requester, priority, ahead]

/-- A thread that is turned down says so when it gets its answer. -/
theorem elevationLines_endRequest (requesting : c.point = .requesting)
    (elevated : c.priority.isElevated = true) {ends : RequestEnd}
    (comes : ends ≠ .held → c.requester.outcome c.priority = ends) :
    (c.endRequest ends).1.elevationLines = (c.endRequest ends).2.notices.filter Notice.isLoud := by
  cases ends with
  | answered answer =>
    have outcome := comes (by simp)
    cases answer with
    | ok =>
      simp only [endRequest, elevationLines, outcome, Requester.notices]
      split <;> simp [Notice.isLoud, Notice.level]
    | error error =>
      simp [endRequest, elevationLines, outcome, elevated, CapturePoint.isAhead, Notice.isLoud,
        Notice.level]
  | held =>
    have ahead : c.point.isAhead = true := by rw [requesting]; rfl
    exact elevationLines_of_ahead ahead
  | brokeDown cause => simp [endRequest, elevationLines, comes]

/-- A thread that has not got past its request has nothing to say of it after any other step. -/
theorem elevationLines_step_of_ahead {event : CaptureEvent} (ahead : c.point.isAhead = true)
    (elsewhere : c.point = .requesting → event ≠ .proceed ∧ event ≠ .letGo) :
    (c.step event).1.elevationLines = [] := by
  have here : c.point = .launched ∨ c.point = .requesting := by
    cases point : c.point <;> simp_all [CapturePoint.isAhead]
  have stays : (c.step event).1.point = c.point → (c.step event).1.elevationLines = [] :=
    fun same => elevationLines_of_ahead (same ▸ ahead)
  cases event with
  | proceed =>
    rcases here with point | point
    · by_cases elevated : c.priority.isElevated = true
      · exact elevationLines_of_ahead (by simp [step, proceed, point, elevated,
          CapturePoint.isAhead])
      · simp [step, proceed, point, elevated, elevationLines]
    · exact absurd rfl (elsewhere point).1
  | letGo =>
    rcases here with point | point
    · exact stays (by simp [step, letGo, point])
    · exact absurd rfl (elsewhere point).2
  | expire => exact stays (by rcases here with point | point <;> simp [step, expire, point])
  | returned read =>
    exact stays (by rcases here with point | point <;> simp [step, returned, point])
  | stop => exact stays c.point_stop
  | join => exact stays c.point_join
  | wake | take | drain | nextRecord => exact stays rfl

theorem elevationLines_step {event : CaptureEvent}
    (elsewhere : c.point = .requesting → event ≠ .proceed ∧ event ≠ .letGo) :
    (c.step event).1.elevationLines = c.elevationLines := by
  have asks := c.step_asks event
  cases ahead : c.point.isAhead with
  | true => rw [elevationLines_step_of_ahead ahead elsewhere, elevationLines_of_ahead ahead]
  | false =>
    have past : (c.step event).1.point.isAhead = false := by
      cases next : (c.step event).1.point.isAhead with
      | false => rfl
      | true => exact absurd (ahead.symm.trans (asks.ahead next).1) Bool.false_ne_true
    exact elevationLines_congr asks.requester asks.priority (past.trans ahead.symm)

end Capture

/-! ## Iterations -/

namespace Iteration

/-- A read that failed. -/
def failureLines (i : Iteration) : List Notice :=
  match i.ending with
  | some (.failed status) => [.deviceCallFailed "read" status]
  | _ => []

/-- A data write of a read that reported more than there was room for when the iteration began:
as much is written as there was room for. -/
def shortLines (i : Iteration) : List Notice :=
  if i.stored = true ∧ i.room < i.reported then [.writeShort i.room i.reported i.room] else []

/-- An outcome that found the status slot full. -/
def dropLines (i : Iteration) : List Notice :=
  match i.recorded with
  | some false => (i.ending.bind ReadEnd.outcome?).toList.map Notice.recordDropped
  | _ => []

/-- What the thread has to say of an iteration, as far as it has come. -/
def lines (i : Iteration) : List Notice := i.failureLines ++ i.shortLines ++ i.dropLines

theorem lines_began (room : Nat) (buffer : ReadBuffer) : lines { room, buffer } = [] := rfl

theorem lines_comeBack (room : Nat) (buffer : ReadBuffer) (read : DeviceRead) :
    (comeBack { room, buffer } read).lines =
      match read.ending with
      | .failed status => [.deviceCallFailed "read" status]
      | _ => [] := by
  cases ending : read.ending <;>
    simp [lines, failureLines, shortLines, dropLines, comeBack, ending]

theorem lines_store (room : Nat) (buffer : ReadBuffer) (count : UInt64) :
    (store { room, buffer, ending := some (.transferred count) }).lines =
      if room < count.toNat then [.writeShort room count.toNat room] else [] := by
  simp [lines, failureLines, shortLines, dropLines, store, reported]

theorem lines_record {i : Iteration} {ending : ReadEnd} {outcome : ReadOutcome}
    (ended : i.ending = some ending) (came : ending.outcome? = some outcome)
    (unrecorded : i.recorded = none) (fits : Bool) :
    (i.record fits).lines = i.lines ++ if fits then [] else [.recordDropped outcome] := by
  have before : i.dropLines = [] := by simp only [dropLines, unrecorded]
  have after : (i.record fits).dropLines = if fits then [] else [.recordDropped outcome] := by
    cases fits <;> simp [dropLines, record, ended, came]
  rw [lines, lines, before, after, List.append_nil]
  rfl

end Iteration

namespace Observed

variable {w : Observed} {said : List Notice}

/-- All that the thread has to say. -/
def lines (w : Observed) : List Notice :=
  w.capture.elevationLines ++ w.iterations.flatMap Iteration.lines

/-- What the thread has logged, but for what is of use to developers only, is what it has to say. -/
structure LoggedExactly (w : Observed) (said : List Notice) : Prop where
  exact : w.Exact
  /-- A thread that has not got past its request has been in no iteration. -/
  ahead : w.capture.point.isAhead = true → w.iterations = []
  asking : w.capture.point = .requesting → w.capture.priority.isElevated = true
  lines : said.filter Notice.isLoud = w.lines

/-- A step of which the thread has nothing to say. -/
theorem lines_of_quiet {next : Observed} (elevation : next.capture.elevationLines =
      w.capture.elevationLines) (iterations : next.iterations.flatMap Iteration.lines =
      w.iterations.flatMap Iteration.lines) {notices : List Notice}
    (quiet : notices.filter Notice.isLoud = []) :
    next.lines = w.lines ++ notices.filter Notice.isLoud := by
  rw [lines, lines, elevation, iterations, quiet, List.append_nil]

/-- A step of the iteration under way. -/
theorem lines_of_current {next : Observed} {i j : Iteration} {notices : List Notice}
    (elevation : next.capture.elevationLines = w.capture.elevationLines)
    (past : next.past = w.past) (before : w.current = some i) (after : next.current = some j)
    (lines : j.lines = i.lines ++ notices.filter Notice.isLoud) :
    next.lines = w.lines ++ notices.filter Notice.isLoud := by
  simp only [Observed.lines, Observed.iterations, elevation, past, before, after, lines,
    Option.toList_some, List.flatMap_append, List.flatMap_singleton, List.append_assoc]

/-- The request of the thread ends; that comes before all iterations. -/
theorem LoggedExactly.lines_endRequest (h : w.LoggedExactly said)
    (requesting : w.capture.point = .requesting)
    {ends : RequestEnd}
    (comes : ends ≠ .held → w.capture.requester.outcome w.capture.priority = ends) :
    Observed.lines { w with capture := (w.capture.endRequest ends).1 } =
      w.lines ++ (w.capture.endRequest ends).2.notices.filter Notice.isLoud := by
  have ahead : w.capture.point.isAhead = true := by rw [requesting]; rfl
  show (w.capture.endRequest ends).1.elevationLines ++ w.iterations.flatMap Iteration.lines =
    w.capture.elevationLines ++ w.iterations.flatMap Iteration.lines ++ _
  rw [h.ahead ahead, Capture.elevationLines_of_ahead ahead,
    Capture.elevationLines_endRequest requesting (h.asking requesting) comes]
  exact List.append_nil _

theorem LoggedExactly.lines_letGo (h : w.LoggedExactly said) :
    (w.step .letGo).lines = w.lines ++ (w.capture.remark .letGo).filter Notice.isLoud := by
  have said : w.capture.remark .letGo = w.capture.letGo.2.notices := rfl
  rw [step_of_aside rfl (Capture.aside_letGo w.capture), said]
  show Observed.lines { w with capture := w.capture.letGo.1 } = _
  unfold Capture.letGo
  split
  · rename_i requesting held
    exact h.lines_endRequest requesting fun _ => Requester.outcome_of_held held
  · exact (List.append_nil _).symm

theorem LoggedExactly.lines_proceed (h : w.LoggedExactly said) :
    (w.step .proceed).lines = w.lines ++ (w.capture.remark .proceed).filter Notice.isLoud := by
  have said : w.capture.remark .proceed = w.capture.proceed.2.notices := rfl
  have stands := h.exact.standing.stands
  by_cases requesting : w.capture.point = .requesting
  · have request : w.capture.proceed =
        w.capture.endRequest (w.capture.requester.request w.capture.priority) := by
      simp only [Capture.proceed, requesting, Capture.request]
    rw [proceed_of_between (by simp [requesting, CapturePoint.isBetween]) (by simp [requesting]),
      said, request]
    exact h.lines_endRequest requesting Requester.outcome_of_unheld
  have elevation : (w.step .proceed).capture.elevationLines = w.capture.elevationLines :=
    Capture.elevationLines_step fun here => absurd here requesting
  cases point : w.capture.point with
  | requesting => exact absurd point requesting
  | granted =>
    have between : w.capture.point.isBetween = true := by rw [point]; rfl
    refine lines_of_quiet elevation ?_
      (by rw [said, Capture.notices_proceed_of_between between requesting]; rfl)
    simp [proceed_of_granted point, iterations, stands.between between, Iteration.lines_began]
  | storing free reported =>
    obtain ⟨count, rfl, current⟩ := stands.storing point
    have room : free ≤ w.capture.data.ring.free := h.exact.room _ current rfl
    have notices : w.capture.remark .proceed =
        if free < count.toNat then [.writeShort free count.toNat free] else [] := by
      rw [said, ← Capture.notices_publish room]
      simp only [Capture.proceed, point]
    refine lines_of_current elevation (by rw [proceed_of_storing point]) current
      (by rw [proceed_of_storing point, current]; rfl) ?_
    rw [notices, Iteration.lines_store]
    split <;> rfl
  | recording outcome =>
    obtain ⟨i, ending, current, ended, came, -, unrecorded⟩ := stands.recording point
    have notices : w.capture.remark .proceed =
        if 0 < w.capture.records.free then [] else [.recordDropped outcome] := by
      rw [said, ← Capture.notices_publishRecord]
      simp only [Capture.proceed, point]
    refine lines_of_current elevation (by rw [proceed_of_recording point]) current
      (by rw [proceed_of_recording point, current]; rfl) ?_
    rw [notices, Iteration.lines_record ended came unrecorded]
    by_cases room : 0 < w.capture.records.free <;> simp [room, Notice.isLoud, Notice.level]
  | signalling =>
    refine lines_of_quiet elevation ?_ (by simp [said, Capture.proceed, point])
    simp [proceed_of_signalling point, iterations]
  | reading | brokenDown =>
    refine lines_of_quiet elevation ?_ (by simp [said, Capture.proceed, point])
    rw [proceed_of_stuck (by simp [point])]
  | launched | entering | testing | waiting | leaving | ended =>
    have between : w.capture.point.isBetween = true := by rw [point]; rfl
    refine lines_of_quiet elevation ?_
      (by rw [said, Capture.notices_proceed_of_between between requesting]; rfl)
    rw [proceed_of_between between (by simp [point])]
    rfl

theorem LoggedExactly.lines_returned (h : w.LoggedExactly said) (read : DeviceRead) :
    (w.step (.returned read)).lines =
      w.lines ++ (w.capture.remark (.returned read)).filter Notice.isLoud := by
  have said : w.capture.remark (.returned read) = (w.capture.returned read).2.notices := rfl
  have elevation : (w.step (.returned read)).capture.elevationLines = w.capture.elevationLines :=
    Capture.elevationLines_step (by simp)
  by_cases reading : ∃ free, w.capture.point = .reading free
  · obtain ⟨free, point⟩ := reading
    have current := h.exact.standing.stands.reading point
    refine lines_of_current elevation (by rw [returned_of_reading point]) current
      (by rw [returned_of_reading point, current]; rfl) ?_
    rw [Iteration.lines_comeBack, Iteration.lines_began, said]
    cases ending : read.ending <;>
      simp [Capture.returned, point, ending, Notice.isLoud, Notice.level]
  · have elsewhere : ∀ free, w.capture.point ≠ .reading free :=
      fun free point => reading ⟨free, point⟩
    refine lines_of_quiet elevation (by rw [returned_of_elsewhere elsewhere]) ?_
    rw [said]
    unfold Capture.returned
    split
    · exact absurd ‹_› (elsewhere _)
    · rfl

/-- A step logs what it adds to the lines that the history calls for. -/
theorem LoggedExactly.lines_step (h : w.LoggedExactly said) (event : CaptureEvent) :
    (w.step event).lines = w.lines ++ (w.capture.remark event).filter Notice.isLoud := by
  -- only the steps that the thread takes in its loop belong to an iteration
  have beside : event ≠ .proceed → (∀ read, event ≠ .returned read) → event ≠ .letGo →
      w.turn event = (w.past, w.current) →
      (w.step event).lines = w.lines ++ (w.capture.remark event).filter Notice.isLoud := by
    intro unproceeding unreturned held unturned
    refine lines_of_quiet ?_ ?_ ?_
    · exact Capture.elevationLines_step fun _ => ⟨unproceeding, held⟩
    · show ((w.turn event).1 ++ (w.turn event).2.toList).flatMap _ = _
      rw [unturned]
      rfl
    · rw [Capture.remark_eq_nil unproceeding unreturned held]
      rfl
  cases event with
  | proceed => exact h.lines_proceed
  | returned read => exact h.lines_returned read
  | letGo => exact h.lines_letGo
  | _ => exact beside (by simp) (by simp) (by simp) rfl

/-- No step of a thread that has not got past its request belongs to an iteration. -/
theorem turn_of_ahead (ahead : w.capture.point.isAhead = true) (event : CaptureEvent) :
    w.turn event = (w.past, w.current) := by
  cases event with
  | proceed | returned => cases point : w.capture.point <;> simp_all [turn, CapturePoint.isAhead]
  | _ => rfl

theorem LoggedExactly.step (h : w.LoggedExactly said) (event : CaptureEvent) :
    (w.step event).LoggedExactly (said ++ w.capture.remark event) := by
  have asks := w.capture.step_asks event
  refine ⟨h.exact.move (w.step_move event), ?_, ?_, ?_⟩
  · intro ahead
    have before := (asks.ahead ahead).1
    show (w.turn event).1 ++ (w.turn event).2.toList = []
    rw [turn_of_ahead before]
    exact h.ahead before
  · intro point
    rcases asks.elevated point with before | elevated
    · exact asks.priority ▸ h.asking before
    · exact asks.priority ▸ elevated
  · rw [List.filter_append, h.lines, h.lines_step]

theorem LoggedExactly.run (h : w.LoggedExactly said) (events : List CaptureEvent) :
    (w.run events).LoggedExactly (said ++ w.capture.remarks events) := by
  induction events generalizing w said with
  | nil => exact (List.append_nil said).symm ▸ h
  | cons event events ih =>
    rw [Capture.remarks, ← List.append_assoc]
    exact ih (h.step event)

variable {c : Capture}

theorem loggedExactly_fresh (fresh : c.IsFresh) : LoggedExactly { capture := c } [] := by
  obtain ⟨chunkSize, chunkCount, priority, requester, positive, rfl⟩ := fresh
  refine ⟨exact_fresh positive priority requester, fun _ => rfl, nofun, ?_⟩
  rw [lines, Capture.elevationLines_of_ahead rfl]
  rfl

theorem loggedExactly_history (fresh : c.IsFresh) (events : List CaptureEvent) :
    (c.history events).LoggedExactly (c.remarks events) :=
  (loggedExactly_fresh fresh).run events

/-! ## All of it -/

/-- A log tells of all losses, of each once, and of nothing else. -/
structure Logs (w : Observed) (log : List Notice) : Prop where
  lines : log.filter Notice.isLoud = w.lines
  readErrors : w.capture.tally.readErrors = log.countP Notice.isReadFailure
  shortWrites : w.capture.tally.shortWrites = log.countP Notice.isShort
  statusDrops : w.capture.tally.statusDrops = log.countP Notice.isDrop
  /-- All has been said of the iterations that are over. -/
  complete : ∀ i ∈ w.past, i.Complete

end Observed

/-- Whatever the device does, whatever the request for a priority comes to and whenever the
consumer takes its turns, the log of the thread tells of all losses. -/
theorem Capture.logs_history {c : Capture} (fresh : c.IsFresh) (events : List CaptureEvent) :
    (c.history events).Logs (c.remarks events) := by
  have logged := Observed.loggedExactly_history fresh events
  have tells := c.tells_run events
  obtain ⟨chunkSize, chunkCount, priority, requester, positive, rfl⟩ := fresh
  obtain ⟨readErrors, shortWrites, statusDrops⟩ := tells
  refine ⟨logged.lines, ?_, ?_, ?_, logged.exact.standing.past⟩
  · rw [history, Observed.run_capture, readErrors]
    exact Nat.zero_add _
  · rw [history, Observed.run_capture, shortWrites]
    exact Nat.zero_add _
  · rw [history, Observed.run_capture, statusDrops]
    exact Nat.zero_add _

end AudioCapture
