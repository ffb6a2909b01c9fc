import AudioCapture.Proofs.Capture.Stopping

/-!
# The state of a capture thread moves forward

The session and the thread write the same state, in any order: a request to stop tries to mark the
thread, the thread marks itself when it comes to run and when it has come to its end, and a join
marks a thread that broke down. None of this takes the state back (`state_forward`).

* `ThreadControl.Move.rank_le` — no step takes the state back;
* `ThreadControl.Backed` — what the two last states say of the thread and of its stop flag;
* `ThreadControl.Unrun` — where a thread can be that has never shown that it runs.
-/

namespace AudioCapture

/-- Where a thread stands that is not in its loop. -/
def CapturePoint.isOutside : CapturePoint → Bool
  | .launched | .requesting | .entering | .leaving | .ended | .brokenDown => true
  | _ => false

theorem CapturePoint.readsLeft_of_isOutside {point : CapturePoint}
    (outside : point.isOutside = true) : point.readsLeft = 0 := by
  cases point with
  | waiting | granted => cases outside
  | _ => rfl

namespace ThreadControl

variable {h next : ThreadControl} {event : CaptureEvent} {offered : Option Nat}

theorem Move.rank_le (move : h.Move event offered next) : h.state.rank ≤ next.state.rank := by
  cases move with
  | still | went | began | brokeDown | flagged | missed => exact Nat.le_refl _
  | entered | returned =>
    dsimp only
    split
    · rename_i created
      rw [created]
      exact Nat.zero_le _
    · exact Nat.le_refl _
  | marked flagged running =>
    rw [running]
    exact Nat.le_succ 1
  | left | joined => cases h.state <;> simp [WorkerState.rank]

/-! ## The last states -/

/-- A thread is marked as stopping by a request that has put up the flag, and as exited only when
it takes no more steps. -/
structure Backed (h : ThreadControl) : Prop where
  stopping : h.state = .stopping → h.stopFlag = true
  exited : h.state = .exited → h.point.isFinal = true

theorem Backed.move (backed : h.Backed) (marked : h.Marked) (move : h.Move event offered next) :
    next.Backed := by
  obtain ⟨stopping, exited⟩ := backed
  -- a thread that takes a step is not at its end yet, so it has not been marked as exited
  have going : h.point.isFinal = false → h.state ≠ .exited := by
    intro before shown
    cases before.symm.trans (exited shown)
  cases move with
  | still | missed => exact ⟨stopping, exited⟩
  | @went point next here leads =>
    refine ⟨stopping, fun shown => absurd shown (going ?_)⟩
    rw [here]
    cases leads <;> rfl
  | began free here => exact ⟨stopping, fun shown => absurd shown (going (by rw [here]; rfl))⟩
  | brokeDown => exact ⟨stopping, fun _ => rfl⟩
  | entered here =>
    have unexited : h.state ≠ .exited := going (by rw [here]; rfl)
    refine ⟨?_, ?_⟩
    · intro shown
      change (if h.state = .created then .running else h.state) = _ at shown
      split at shown
      · cases shown
      · exact stopping shown
    · intro shown
      change (if h.state = .created then .running else h.state) = _ at shown
      split at shown
      · cases shown
      · exact absurd shown unexited
  | left => exact ⟨nofun, fun _ => rfl⟩
  | flagged => exact ⟨fun _ => rfl, exited⟩
  | marked asked => exact ⟨fun _ => marked.flagged (asked ▸ nofun), nofun⟩
  | returned asked =>
    have flag : h.stopFlag = true := marked.flagged (asked ▸ nofun)
    refine ⟨fun _ => flag, ?_⟩
    intro shown
    change (if h.state = .created then .stopping else h.state) = _ at shown
    split at shown
    · cases shown
    · exact exited shown
  | joined here => exact ⟨nofun, fun _ => by rw [here]; rfl⟩

/-! ## Threads that have never run -/

/-- Where a thread can be that has never shown that it runs: it has not come into its loop, or sees
there at once that it is to stop. -/
def Unrun (h : ThreadControl) : Prop :=
  h.point.isOutside = true ∨ h.point = .testing ∧ h.stopFlag = true

theorem Unrun.readsLeft (unrun : h.Unrun) : h.point.readsLeft = 0 := by
  rcases unrun with outside | ⟨testing, -⟩
  · exact CapturePoint.readsLeft_of_isOutside outside
  · rw [testing]
    rfl

/-- Such a thread begins no read, and after a step it is such a thread still unless it shows that
it runs. -/
theorem Unrun.move (unrun : h.Unrun) (backed : h.Backed) (move : h.Move event offered next)
    (before : h.state ≠ .running) (after : next.state ≠ .running) :
    offered = none ∧ next.Unrun := by
  cases move with
  | still | missed => exact ⟨rfl, unrun⟩
  | @went point next here leads =>
    refine ⟨rfl, ?_⟩
    rcases unrun with outside | ⟨testing, flag⟩
    · rw [here] at outside
      cases leads with
      | asks | skips | goesOn => exact .inl rfl
      | _ => cases outside
    · rw [here] at testing
      subst testing
      rw [flag] at leads
      cases leads with
      | stops => exact .inl rfl
      | waits down => cases down
  | began free here =>
    have none := unrun.readsLeft
    rw [here] at none
    cases none
  | brokeDown => exact ⟨rfl, .inl rfl⟩
  | entered here =>
    refine ⟨rfl, .inr ⟨rfl, ?_⟩⟩
    -- the thread does not come to run, so it has been marked before
    cases state : h.state with
    | created => exact absurd (if_pos state) after
    | running => exact absurd state before
    | stopping => exact backed.stopping state
    | exited =>
      have final := backed.exited state
      rw [here] at final
      cases final
  | left => exact ⟨rfl, .inl rfl⟩
  | flagged => exact ⟨rfl, unrun.imp_right fun there => ⟨there.1, rfl⟩⟩
  | marked asked running => exact absurd running before
  | returned | joined => exact ⟨rfl, unrun⟩

end ThreadControl

namespace Capture

variable {c : Capture}

theorem rank_le_run (c : Capture) (events : List CaptureEvent) :
    c.state.rank ≤ (c.run events).state.rank := by
  have step {h next : ThreadControl} {event : CaptureEvent} {offered : Option Nat}
      (move : h.Move event offered next) (kept : c.state.rank ≤ h.state.rank) :
      c.state.rank ≤ next.state.rank := Nat.le_trans kept move.rank_le
  exact control_induction (fun h => c.state.rank ≤ h.state.rank) step (Nat.le_refl _) events

theorem state_run_of_exited (exited : c.state = .exited) (events : List CaptureEvent) :
    (c.run events).state = .exited := by
  have forward := c.rank_le_run events
  rw [exited] at forward
  cases last : (c.run events).state with
  | exited => rfl
  | _ =>
    rw [last] at forward
    exact absurd forward (by decide)

theorem backed_run (marked : c.control.Marked) (backed : c.control.Backed)
    (events : List CaptureEvent) : (c.run events).control.Marked ∧ (c.run events).control.Backed :=
  control_induction (fun h => h.Marked ∧ h.Backed)
    (fun move kept => ⟨kept.1.move move, kept.2.move kept.1 move⟩) ⟨marked, backed⟩ events

/-- A thread that never shows that it runs begins no read. -/
theorem unrun_run (marked : c.control.Marked) (backed : c.control.Backed) (unrun : c.control.Unrun)
    {events : List CaptureEvent}
    (never : ∀ sooner, sooner <+: events → (c.run sooner).state ≠ .running) :
    c.offers events = [] ∧ (c.run events).control.Unrun := by
  induction events generalizing c with
  | nil => exact ⟨rfl, unrun⟩
  | cons event events ih =>
    have before : c.state ≠ .running := never [] List.nil_prefix
    have after : (c.step event).1.state ≠ .running :=
      never [event] (List.prefix_append [event] events)
    have move := c.step_control event
    obtain ⟨none, still⟩ := unrun.move backed move before after
    obtain ⟨rest, last⟩ := ih (marked.move move) (backed.move marked move) still
      fun sooner first => never (event :: sooner) (List.cons_prefix_cons.2 ⟨rfl, first⟩)
    refine ⟨?_, last⟩
    rw [offers_cons, none, rest]
    rfl

/-- A join that finds the thread at its end leaves it marked as exited, also when it broke down. -/
theorem state_join (shows : c.control.ShowsEnd) (final : c.point.isFinal = true) :
    c.join.1.state = .exited := by
  unfold join
  split
  · rfl
  · rename_i unbroken
    refine shows ?_
    show c.point = .ended
    cases point : c.point with
    | ended => rfl
    | brokenDown => exact absurd point unbroken
    | _ =>
      rw [point] at final
      cases final

/-- A join that does not find the thread at its end is given up and leaves it alone. -/
theorem join_of_going (going : c.point.isFinal = false) : c.join = (c, {}) := by
  unfold join
  split
  · rename_i broken
    rw [broken] at going
    cases going
  · rfl

/-- **Forward**: however the steps of a thread fall between those of a request to stop and of a
join, also when the join is given up and the thread goes on, the state of the thread never goes
back. A thread that is marked as stopping before it has run never runs and begins no read; a thread
that is marked as exited stays so; and a join that finds the thread at its end leaves it marked as
exited, also when it broke down. -/
theorem state_forward {chunkSize chunkCount : Nat} {priority : ThreadPriority}
    {requester : Requester} (events : List CaptureEvent) :
    let c := fresh chunkSize chunkCount priority requester
    let now := c.run events
    (∀ later, now.state.rank ≤ (now.run later).state.rank) ∧
      (now.state = .stopping → (∀ sooner, sooner <+: events → (c.run sooner).state ≠ .running) →
        ∀ later, (now.run later).state ≠ .running ∧ c.offers (events ++ later) = []) ∧
      (now.state = .exited → ∀ later, (now.run later).state = .exited) ∧
      (now.point.isFinal = true → ∀ later, (now.run (.join :: later)).state = .exited) ∧
      (now.point.isFinal = false → now.step .join = (now, {})) := by
  intro c now
  have marked : c.control.Marked := ⟨nofun, nofun, nofun⟩
  have backed : c.control.Backed := ⟨nofun, nofun⟩
  have shows : now.control.ShowsEnd := showsEnd_run (c := c) nofun events
  refine ⟨now.rank_le_run, ?_, state_run_of_exited, ?_, join_of_going⟩
  · intro stopping never later
    obtain ⟨none, unrun⟩ := unrun_run marked backed (.inl rfl) never
    have flag : now.stopFlag = true := (backed_run marked backed events).2.stopping stopping
    refine ⟨?_, ?_⟩
    · intro running
      have forward := now.rank_le_run later
      rw [stopping, running] at forward
      exact absurd forward (by decide)
    · rw [offers_append, none]
      exact offers_eq_nil flag unrun.readsLeft later
  · intro final later
    exact state_run_of_exited (state_join shows final) later

/-- A thread that is asked to stop while it is held in its request for a priority, and whose join is
given up: it goes on to its end without a read. Another breaks down in a read while it is marked as
running, and is joined then. -/
theorem state_forward_held :
    let c := fresh 2 2 .urgent .holding
    let held : List CaptureEvent := [.proceed, .stop, .stop, .stop, .join]
    let d := fresh 2 2 .normal .ignoring
    let broken := [.proceed, .proceed, .proceed] ++ CaptureEvent.turn { ending := .brokeDown } []
    ((c.run held).state = .stopping ∧
        (∀ sooner, sooner <+: held → (c.run sooner).state ≠ .running) ∧
        ∀ later, ((c.run held).run later).state ≠ .running ∧ c.offers (held ++ later) = []) ∧
      ((d.run broken).state = .running ∧ (d.run broken).point.isFinal = true ∧
        ∀ later, ((d.run broken).run (.join :: later)).state = .exited) := by
  intro c held d broken
  have stopping : (c.run held).state = .stopping := by decide
  have taken : ∀ count ≤ 5, (c.run (held.take count)).state ≠ .running := by decide
  have never : ∀ sooner, sooner <+: held → (c.run sooner).state ≠ .running := by
    intro sooner first
    rw [List.prefix_iff_eq_take.1 first]
    exact taken sooner.length first.length_le
  have running : (d.run broken).state = .running := by decide
  have final : (d.run broken).point.isFinal = true := by decide
  obtain ⟨-, unrun, -⟩ := @state_forward 2 2 .urgent .holding held
  obtain ⟨-, -, -, joined, -⟩ := @state_forward 2 2 .normal .ignoring broken
  exact ⟨⟨stopping, never, unrun stopping never⟩, running, final, joined final⟩

end Capture

end AudioCapture
