import AudioCapture.Proofs.Capture.Accounts

/-!
# The outcomes of a capture

The status slot holds one outcome. What an event does to it is said once (`slotAfter`): an outcome
that finds it empty goes in, one that finds another there is dropped, and only the consumer takes
one out. Every outcome says of its read what came of it (`ReadEnd.Tells`), and the consumer gets
those that went in, each once and in order (`outcomes_delivered`).

* `HasSlot.step` — the slot after each event;
* `Standing.complete_of_recorded` — an iteration with an outcome is one whose read has come back.
-/

namespace AudioCapture

/-- What an outcome says of the read it is about: how many bytes the device reported, or why it
reported none, and then it never has the code of success. -/
inductive ReadEnd.Tells : ReadEnd → ReadOutcome → Prop
  | transferred (count : UInt64) :
      Tells (.transferred count) { result := .ok, transferred := count }
  | failed (status : DeviceStatus) (code : ResultCode) : (status.toFailure "read").code = code →
      code ≠ .ok → Tells (.failed status) { result := code, transferred := 0 }

theorem ReadEnd.tells_of_outcome? {ending : ReadEnd} {outcome : ReadOutcome}
    (came : ending.outcome? = some outcome) : ending.Tells outcome := by
  cases ending with
  | transferred count =>
    cases came
    exact .transferred count
  | failed status =>
    cases came
    exact .failed status _ rfl (status.toFailure_code_ne_ok "read")
  | brokeDown => cases came

/-! ## The slot -/

namespace Capture

/-- The outcome in the status slot. -/
def slot? (c : Capture) : Option ReadOutcome := c.records.contents.head?

/-- What an event leaves in the slot. -/
def slotAfter (c : Capture) (event : CaptureEvent) : Option ReadOutcome :=
  match event, c.point with
  | .nextRecord, _ => none
  | .proceed, .recording outcome => some (c.slot?.getD outcome)
  | _, _ => c.slot?

/-- The ring of the outcomes is a slot. -/
structure HasSlot (c : Capture) : Prop where
  valid : c.records.Valid
  single : c.records.capacity = 1

variable {c : Capture}

/-- The steps that do not concern the ring of the outcomes. -/
theorem records_step (c : Capture) {event : CaptureEvent}
    (unrecording : ∀ outcome, c.point = .recording outcome → event ≠ .proceed)
    (untaken : event ≠ .nextRecord) : (c.step event).1.records = c.records := by
  cases event with
  | proceed =>
    by_cases aside : c.point.isBetween = true ∧ c.point ≠ .granted
    · exact (aside_proceed aside.1 aside.2).records
    · cases point : c.point with
      | recording outcome => exact absurd rfl (unrecording outcome point)
      | granted | storing | signalling | reading | brokenDown =>
        simp only [step, proceed, point, publish]
      | launched | requesting | entering | testing | waiting | leaving | ended =>
        simp [point, CapturePoint.isBetween] at aside
  | expire => exact c.aside_expire.records
  | letGo => exact c.aside_letGo.records
  | returned read =>
    show (c.returned read).1.records = _
    unfold returned
    split
    · split <;> rfl
    · rfl
  | stop => exact c.aside_stop.records
  | join => exact c.aside_join.records
  | wake | take | drain => rfl
  | nextRecord => exact absurd rfl untaken

namespace HasSlot

theorem contents_eq (h : c.HasSlot) : c.records.contents = c.slot?.toList := by
  have short := h.valid.length_contents
  have most := c.records.readable_le
  rw [h.single, ← short] at most
  unfold slot?
  match c.records.contents, most with
  | [], _ => rfl
  | [outcome], _ => rfl

theorem free_pos_iff (h : c.HasSlot) : 0 < c.records.free ↔ c.slot? = none := by
  rw [h.valid.free_eq, h.single, h.contents_eq]
  cases c.slot? with
  | none => simp
  | some outcome => simp

/-- An outcome that is put there goes in if there is none. -/
theorem write (h : c.HasSlot) (outcome : ReadOutcome) :
    (c.records.write [outcome]).1.contents.head? = some (c.slot?.getD outcome) := by
  rw [h.valid.contents_write, h.valid.free_eq, h.single, h.contents_eq]
  cases c.slot? with
  | none => rfl
  | some older => rfl

theorem step (h : c.HasSlot) (event : CaptureEvent) :
    (c.step event).1.slot? = c.slotAfter event := by
  by_cases took : event = .nextRecord
  · subst took
    show c.records.readOne.1.contents.head? = none
    rw [h.valid.contents_readOne, h.contents_eq]
    cases c.slot? <;> rfl
  by_cases recording : ∃ outcome, c.point = .recording outcome ∧ event = .proceed
  · obtain ⟨outcome, point, rfl⟩ := recording
    simp only [Capture.step, proceed, slotAfter, point]
    rw [slot?, publishRecord_fst]
    exact h.write outcome
  · have kept : (c.step event).1.records = c.records :=
      c.records_step (fun outcome point same => recording ⟨outcome, point, same⟩) took
    have same : c.slotAfter event = c.slot? := by
      unfold slotAfter
      split
      · exact absurd rfl took
      · rename_i outcome point
        exact absurd ⟨outcome, point, rfl⟩ recording
      · rfl
    rw [same, slot?, kept]
    rfl

/-- The consumer takes what is in the slot. -/
theorem nextRecord (h : c.HasSlot) : (c.step .nextRecord).2.record = c.slot? :=
  h.valid.readOne_snd

/-- The outcome that is dropped is logged, and no other. -/
theorem notices (h : c.HasSlot) {outcome : ReadOutcome} (point : c.point = .recording outcome) :
    (c.step .proceed).2.notices = if c.slot?.isNone then [] else [.recordDropped outcome] := by
  simp only [Capture.step, proceed, point, publishRecord]
  cases slot : c.slot? with
  | none =>
    have room := h.free_pos_iff.2 slot
    simp [room]
  | some older =>
    have full := mt h.free_pos_iff.1 (by simp [slot])
    simp [full]

end HasSlot

end Capture

/-! ## The iterations with an outcome -/

namespace Observed

variable {w : Observed}

theorem Standing.complete_of_recorded (h : w.Standing) {i : Iteration} (member : i ∈ w.iterations)
    {fits : Bool} (recorded : i.recorded = some fits) : i.Complete := by
  rcases List.mem_append.1 member with old | now
  · exact h.past i old
  · have current : w.current = some i := Option.mem_toList.1 now
    have stands := h.stands
    rw [current] at stands
    cases point : w.capture.point with
    | signalling =>
      obtain ⟨j, same, complete⟩ := stands.signalling point
      exact Option.some.inj same ▸ complete
    | reading free =>
      have same := Option.some.inj (stands.reading point)
      rw [same] at recorded
      cases recorded
    | storing free reported =>
      obtain ⟨count, -, same⟩ := stands.storing point
      rw [Option.some.inj same] at recorded
      cases recorded
    | recording outcome =>
      obtain ⟨j, -, same, -, -, -, unrecorded⟩ := stands.recording point
      rw [← Option.some.inj same] at unrecorded
      cases unrecorded.symm.trans recorded
    | brokenDown => cases (stands.brokenDown point).2.2.symm.trans recorded
    | _ => cases stands.between (by rw [point]; rfl)

/-- The outcome of an iteration that has put one into the slot or dropped it. -/
theorem Standing.tells (h : w.Standing) {i : Iteration} (member : i ∈ w.iterations) {fits : Bool}
    (recorded : i.recorded = some fits) : ∃ ending outcome, i.ending = some ending ∧
      ending.Tells outcome ∧ i.record? = if fits then some outcome else none := by
  obtain ⟨ending, ended, unbroken, -⟩ := (h.complete_of_recorded member recorded).returned
  obtain ⟨outcome, came⟩ : ∃ outcome, ending.outcome? = some outcome := by
    cases ending with
    | transferred count => exact ⟨_, rfl⟩
    | failed status => exact ⟨_, rfl⟩
    | brokeDown => exact absurd rfl unbroken
  refine ⟨ending, outcome, ended, ReadEnd.tells_of_outcome? came, ?_⟩
  unfold Iteration.record?
  rw [ended, recorded]
  cases fits with
  | true => exact came
  | false => rfl

theorem slot_history (c : Capture) (events : List CaptureEvent) :
    (c.history events).capture.records.capacity = c.records.capacity :=
  run_induction (fun w => w.capture.records.capacity = c.records.capacity)
    (fun move kept => move.slot.trans kept) rfl events

end Observed

/-! ## What the consumer gets -/

/-- **Outcomes**: whatever the device does and whenever the consumer takes an outcome, the outcome
of an iteration says what came of its read. It goes into the slot exactly if that is empty then,
and is dropped otherwise, which leaves the older one there as does everything else but the consumer
that takes it. The outcomes that were taken and the one in the slot are those that went in, in the
order of their iterations. -/
theorem Capture.outcomes_delivered {chunkSize chunkCount : Nat}
    (positive : 0 < chunkSize * chunkCount) (priority : ThreadPriority) (requester : Requester)
    (events : List CaptureEvent) :
    let c := fresh chunkSize chunkCount priority requester
    let w := c.history events
    let now := c.run events
    (∀ i ∈ w.iterations, ∀ fits, i.recorded = some fits → ∃ ending outcome,
        i.ending = some ending ∧ ending.Tells outcome ∧
          i.record? = if fits then some outcome else none) ∧
      (∀ outcome, now.point = .recording outcome → ∃ i ending, w.current = some i ∧
        i.ending = some ending ∧ ending.Tells outcome ∧
          (w.step .proceed).current = some (i.record now.slot?.isNone) ∧
          (now.step .proceed).2.notices =
            if now.slot?.isNone then [] else [.recordDropped outcome]) ∧
      (∀ event, (now.step event).1.slot? = now.slotAfter event) ∧
      (now.step .nextRecord).2.record = now.slot? ∧
      (c.replies events).filterMap CaptureReply.record ++ now.slot?.toList =
        w.iterations.filterMap Iteration.record? := by
  intro c w now
  have accounted : w.Accounted := Observed.accounted_history positive priority requester events
  have standing := accounted.exact.standing
  have same : w.capture = now := Observed.run_capture _ _
  have slot : now.HasSlot :=
    same ▸ ⟨standing.records, Observed.slot_history c events⟩
  refine ⟨fun i member fits recorded => standing.tells member recorded, ?_, slot.step,
    slot.nextRecord, ?_⟩
  · intro outcome point
    have here : w.capture.point = .recording outcome := same ▸ point
    obtain ⟨i, ending, current, ended, came, -, -⟩ := standing.stands.recording here
    have fits : decide (0 < w.capture.records.free) = now.slot?.isNone := by
      rw [same, Bool.eq_iff_iff, decide_eq_true_iff, slot.free_pos_iff, Option.isNone_iff_eq_none]
    refine ⟨i, ending, current, ended, ReadEnd.tells_of_outcome? came, ?_, slot.notices point⟩
    rw [Observed.proceed_of_recording here, current, ← fits]
    rfl
  · have taken : w.taken = (c.replies events).filterMap CaptureReply.record :=
      Observed.run_taken _ _
    rw [← taken, ← slot.contents_eq, ← same]
    exact accounted.outcomes

/-- The run with a read that finds the slot full and one that fails. -/
theorem Capture.outcomes_delivered_sample :
    let c := fresh 2 2 .normal .ignoring
    0 < 2 * 2 ∧ (c.replies CaptureEvent.sample).filterMap CaptureReply.record = [.ok 9] ∧
      (c.replies CaptureEvent.sample).filterMap CaptureReply.record ++
        (c.run CaptureEvent.sample).slot?.toList = [.ok 9, .failed .io] ∧
      (c.history CaptureEvent.sample).iterations.filterMap Iteration.record? =
        [.ok 9, .failed .io] := by
  intro c
  obtain ⟨-, -, -, -, delivered⟩ :=
    @outcomes_delivered 2 2 (by decide) .normal .ignoring CaptureEvent.sample
  have recorded : (c.history CaptureEvent.sample).iterations.filterMap Iteration.record? =
      [.ok 9, .failed .io] := by decide
  exact ⟨by decide, by decide, delivered.trans recorded, recorded⟩

end AudioCapture
