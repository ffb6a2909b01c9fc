import AudioCapture.Proofs.Capture.Forward

/-!
# Counts of a capture thread

The counts of a thread only grow, and those of one that takes no more steps stay as they are. A
snapshot shows counts below `2 ^ 64` as they are, so a later snapshot of the same thread is nowhere
behind an earlier one (`Capture.diagnostics_run`).

* `Diagnostics.AtMost` — nowhere behind, count by count and in the state of the thread;
* `Capture.tally_step`, `Capture.tally_step_of_isFinal` — what one step does to the counts.
-/

namespace AudioCapture

/-! ## Counts by name -/

inductive Count where
  | iterations
  | idleWaits
  | readsOk
  | readErrors
  | bytesRead
  | bytesPublished
  | shortWrites
  | bytesDropped
  | statusPublished
  | statusDrops
  deriving DecidableEq, Repr

namespace Tally

def get (tally : Tally) : Count → Nat
  | .iterations => tally.iterations
  | .idleWaits => tally.idleWaits
  | .readsOk => tally.readsOk
  | .readErrors => tally.readErrors
  | .bytesRead => tally.bytesRead
  | .bytesPublished => tally.bytesPublished
  | .shortWrites => tally.shortWrites
  | .bytesDropped => tally.bytesDropped
  | .statusPublished => tally.statusPublished
  | .statusDrops => tally.statusDrops

/-- No count is behind the same one of another. -/
def AtMost (first second : Tally) : Prop := ∀ count, first.get count ≤ second.get count

/-- A snapshot shows every count as it is. -/
def Small (tally : Tally) : Prop := ∀ count, tally.get count < UInt64.size

variable {first second third : Tally}

theorem AtMost.refl (tally : Tally) : tally.AtMost tally := fun _ => Nat.le_refl _

theorem AtMost.trans (h : first.AtMost second) (k : second.AtMost third) : first.AtMost third :=
  fun count => Nat.le_trans (h count) (k count)

theorem Small.of_atMost (small : second.Small) (h : first.AtMost second) : first.Small :=
  fun count => Nat.lt_of_le_of_lt (h count) (small count)

end Tally

namespace Diagnostics

def get (shown : Diagnostics) : Count → UInt64
  | .iterations => shown.iterations
  | .idleWaits => shown.idleWaits
  | .readsOk => shown.readsOk
  | .readErrors => shown.readErrors
  | .bytesRead => shown.bytesRead
  | .bytesPublished => shown.bytesPublished
  | .shortWrites => shown.shortWrites
  | .bytesDropped => shown.bytesDropped
  | .statusPublished => shown.statusPublished
  | .statusDrops => shown.statusDrops

/-- How far the thread is that a snapshot shows; a snapshot without one comes first. -/
def stage (shown : Diagnostics) : Nat :=
  match shown.workerState with
  | none => 0
  | some state => state.rank + 1

/-- A snapshot is nowhere behind another. -/
structure AtMost (first second : Diagnostics) : Prop where
  stage : first.stage ≤ second.stage
  counts : ∀ count, first.get count ≤ second.get count

variable {first second third : Diagnostics}

theorem AtMost.refl (shown : Diagnostics) : shown.AtMost shown :=
  ⟨Nat.le_refl _, fun _ => UInt64.le_refl _⟩

theorem AtMost.trans (h : first.AtMost second) (k : second.AtMost third) : first.AtMost third :=
  ⟨Nat.le_trans h.stage k.stage, fun count => UInt64.le_trans (h.counts count) (k.counts count)⟩

/-- What is shown when there has been no thread is behind nothing. -/
theorem atMost_of_blank (shown : Diagnostics) : AtMost {} shown := by
  refine ⟨Nat.zero_le _, fun count => ?_⟩
  have zero : get {} count = 0 := by cases count <;> rfl
  rw [zero]
  exact UInt64.zero_le

end Diagnostics

theorem Tally.get_snapshot (tally : Tally) (state : WorkerState) (count : Count) :
    (tally.snapshot state).get count = .ofNat (tally.get count) := by
  cases count <;> rfl

theorem Tally.AtMost.snapshot {first second : Tally} {before after : WorkerState}
    (h : first.AtMost second) (small : second.Small) (forward : before.rank ≤ after.rank) :
    (first.snapshot before).AtMost (second.snapshot after) := by
  refine ⟨Nat.succ_le_succ forward, fun count => ?_⟩
  rw [get_snapshot, get_snapshot, UInt64.le_iff_toNat_le,
    UInt64.toNat_ofNat_of_lt' (small.of_atMost h count), UInt64.toNat_ofNat_of_lt' (small count)]
  exact h count

namespace Capture

variable {c : Capture}

/-! ## Steps -/

theorem tally_endRequest (c : Capture) (ends : RequestEnd) :
    (c.endRequest ends).1.tally = c.tally := by
  obtain ⟨point, notices, same, -⟩ := c.endRequest_eq ends
  rw [same]

/-- A look for a grant that ends the wait leaves the thread as it is told. -/
theorem tally_lookForGrant (c expired : Capture) :
    (c.lookForGrant expired).1.tally = c.tally ∨
      (c.lookForGrant expired).1.tally = expired.tally := by
  unfold lookForGrant
  dsimp only
  split
  · exact .inl rfl
  · exact .inr rfl

theorem tally_publish_le (c : Capture) (free reported : Nat) :
    c.tally.AtMost (c.publish free reported).1.tally := by
  intro count
  cases count <;> simp [publish, Tally.get]

theorem tally_publishRecord_le (c : Capture) (outcome : ReadOutcome) :
    c.tally.AtMost (c.publishRecord outcome).1.tally := by
  intro count
  unfold publishRecord
  dsimp only
  split <;> cases count <;> simp [Tally.get]

theorem tally_proceed (c : Capture) : c.tally.AtMost c.proceed.1.tally := by
  unfold proceed
  split
  · split <;> exact .refl _
  · rw [request, tally_endRequest]
    exact .refl _
  · exact .refl _
  · exact .refl _
  · rw [or_self_iff.1 (c.tally_lookForGrant c)]
    exact .refl _
  · intro count
    cases count <;> simp [Tally.get]
  · exact c.tally_publish_le _ _
  · exact c.tally_publishRecord_le _
  all_goals exact .refl _

/-- The end of a wait is counted, unless there is a grant to take after all. -/
theorem tally_expire (c : Capture) : c.expire.1.tally = c.tally ∨
    c.expire.1.tally = { c.tally with idleWaits := c.tally.idleWaits + 1 } := by
  unfold expire
  split
  · exact c.tally_lookForGrant _
  · exact .inl rfl

theorem tally_returned (c : Capture) (read : DeviceRead) :
    c.tally.AtMost (c.returned read).1.tally := by
  unfold returned
  split
  · dsimp only
    split
    · exact .refl _
    · intro count
      cases count <;> simp [Tally.get]
    · exact .refl _
  · exact .refl _

theorem tally_stop (c : Capture) : c.stop.tally = c.tally := by
  unfold stop
  split
  · rfl
  · split <;> rfl
  · rfl
  · rfl

theorem tally_join (c : Capture) : c.join.1.tally = c.tally := by
  unfold join
  split <;> rfl

/-- No step takes a count back. -/
theorem tally_step (c : Capture) (event : CaptureEvent) :
    c.tally.AtMost (c.step event).1.tally := by
  cases event with
  | proceed => exact c.tally_proceed
  | expire =>
    show c.tally.AtMost c.expire.1.tally
    rcases c.tally_expire with same | more
    · rw [same]
      exact .refl _
    · rw [more]
      intro count
      cases count <;> simp [Tally.get]
  | letGo =>
    show c.tally.AtMost c.letGo.1.tally
    unfold letGo
    split
    · rw [tally_endRequest]
      exact .refl _
    · exact .refl _
  | returned read => exact c.tally_returned read
  | stop =>
    show c.tally.AtMost c.stop.tally
    rw [c.tally_stop]
    exact .refl _
  | join =>
    show c.tally.AtMost c.join.1.tally
    rw [c.tally_join]
    exact .refl _
  | wake | take | drain | nextRecord => exact .refl _

/-- A thread that takes no more steps counts no more. -/
theorem tally_step_of_isFinal (final : c.point.isFinal = true) (event : CaptureEvent) :
    (c.step event).1.tally = c.tally := by
  have none : c.proceed = (c, {}) ∧ c.expire = (c, {}) ∧ c.letGo = (c, {}) ∧
      ∀ read, c.returned read = (c, {}) := by
    cases point : c.point with
    | ended | brokenDown => simp [proceed, expire, letGo, returned, point]
    | _ =>
      rw [point] at final
      cases final
  obtain ⟨proceeds, expires, goes, returns⟩ := none
  cases event with
  | proceed => simp only [step, proceeds]
  | expire => simp only [step, expires]
  | letGo => simp only [step, goes]
  | returned read => simp only [step, returns read]
  | stop => exact c.tally_stop
  | join => exact c.tally_join
  | wake | take | drain | nextRecord => rfl

/-! ## Runs -/

theorem tally_run (c : Capture) (events : List CaptureEvent) :
    c.tally.AtMost (c.run events).tally := by
  induction events generalizing c with
  | nil => exact .refl _
  | cons event events ih => exact (c.tally_step event).trans (ih _)

theorem tally_run_of_isFinal (final : c.point.isFinal = true) (events : List CaptureEvent) :
    (c.run events).tally = c.tally := by
  induction events generalizing c with
  | nil => rfl
  | cons event events ih =>
    have still : (c.step event).1.point = c.point := (c.step_control event).point_of_isFinal final
    exact (ih (still ▸ final)).trans (tally_step_of_isFinal final event)

/-- A later snapshot of a thread is nowhere behind an earlier one. -/
theorem diagnostics_run {events : List CaptureEvent} (small : (c.run events).tally.Small) :
    c.diagnostics.AtMost (c.run events).diagnostics :=
  (c.tally_run events).snapshot small (c.rank_le_run events)

/-- A thread that takes no more steps and is marked as exited is shown as it is for good. -/
theorem diagnostics_run_of_isFinal (final : c.point.isFinal = true) (exited : c.state = .exited)
    (events : List CaptureEvent) : (c.run events).diagnostics = c.diagnostics := by
  unfold diagnostics
  rw [tally_run_of_isFinal final, state_run_of_exited exited, exited]

end Capture

end AudioCapture
