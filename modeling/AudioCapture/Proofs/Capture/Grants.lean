import AudioCapture.Proofs.Capture.Lockstep
import AudioCapture.Proofs.Capture.Stopping

/-!
# Reads and grants of space

A capture thread begins a read for each grant of space it has taken. A grant that nobody has taken
yet is one bit, however often it is given, so no read begins without a grant that was given since
the thread took the one before, and all that are given before it takes one make for a single read
(`reads_granted`).

* `step_credit` — all that a step can do to the grants of a thread, in five cases;
* `Given` — a grant that was given, with what the thread has taken since;
* `ledger_run` — grants given, taken and used up in a run;
* `toGo_due` — the thread comes nearer to the reads it has grants for with each step of its own.
-/

namespace AudioCapture

namespace CaptureEvent

/-- Space is granted. -/
def grants : CaptureEvent → Bool
  | .wake mask => mask.notFull
  | _ => false

/-- Somebody other than the thread takes the grant that is there, if there is one. -/
def withdraws : CaptureEvent → Bool
  | .take mask => mask.notFull
  | _ => false

/-- The thread looks for a grant if it is in its wait. -/
def looks : CaptureEvent → Bool
  | .proceed | .expire => true
  | _ => false

end CaptureEvent

/-! ## Grants of a thread -/

/-- What a thread has been granted and not used yet, and how often it has begun a read. -/
structure Credit where
  /-- One is there to be taken. -/
  pending : Bool
  /-- The thread has taken one and is about to begin the read for it. -/
  held : Bool
  /-- How many reads have begun. -/
  begun : Nat

def Credit.count (k : Credit) : Nat := k.pending.toNat + k.held.toNat

/-- What an event can do to the grants of a thread, whether the thread takes one, and whether a read
begins, with the room it is offered. -/
inductive Credit.Move (k : Credit) (event : CaptureEvent) : Bool → Option Nat → Credit → Prop
  | still : event.grants = false → Move k event false none k
  | granted : event.grants = true → Move k event false none { k with pending := true }
  | withdrawn : event.withdraws = true → Move k event false none { k with pending := false }
  | accepted : k.pending = true → k.held = false →
      Move k event true none { k with pending := false, held := true }
  | began (free : Nat) : k.held = true →
      Move k event false (some free) { k with held := false, begun := k.begun + 1 }

/-- Who gains a grant by a move, and who loses it. -/
theorem Credit.Move.ledger {k next : Credit} {event : CaptureEvent} {accepted : Bool}
    {offered : Option Nat} (move : k.Move event accepted offered next) :
    next.begun = k.begun + offered.toList.length ∧
      offered.toList.length + next.held.toNat = k.held.toNat + accepted.toNat ∧
      accepted.toNat + next.pending.toNat ≤ k.pending.toNat + event.grants.toNat ∧
      (event.grants = false → event.withdraws = false →
        accepted.toNat + next.pending.toNat = k.pending.toNat) := by
  cases move with
  | still ungranted => simp
  | granted granted => simp [granted]
  | withdrawn withdrawn => simp [withdrawn]
  | accepted pending unheld => simp [pending, unheld]
  | began free held => simp [held]

namespace Capture

variable {c : Capture} {event : CaptureEvent} {events : List CaptureEvent}

def credit (c : Capture) : Credit where
  pending := c.data.signals.notFull
  held := decide (c.point = .granted)
  begun := c.tally.iterations

/-- Whether the thread takes a grant in a step. -/
def accepts (c : Capture) (event : CaptureEvent) : Bool :=
  event.looks && (c.step event).2.seen.notFull

/-- How many grants the thread takes in a run. -/
def accepted (c : Capture) : List CaptureEvent → Nat
  | [] => 0
  | event :: events => (c.accepts event).toNat + (c.step event).1.accepted events

theorem credit_still {next : Capture} (ungranted : event.grants = false)
    (signals : next.data.signals.notFull = c.data.signals.notFull)
    (begun : next.tally.iterations = c.tally.iterations)
    (held : next.point = .granted ↔ c.point = .granted) :
    c.credit.Move event false none next.credit := by
  have same : next.credit = c.credit := by simp only [credit, signals, begun, held]
  rw [same]
  exact .still ungranted

theorem credit_lookForGrant {expired : Capture} (waiting : c.point = .waiting)
    (same : expired.credit = c.credit) (ungranted : event.grants = false) :
    c.credit.Move event (c.lookForGrant expired).2.seen.notFull (c.lookForGrant expired).2.offered
      (c.lookForGrant expired).1.credit := by
  have sees : (c.data.take .spaceReady).2.contains .spaceReady = c.data.signals.notFull :=
    c.data.signals.sees_space
  have unheld : c.credit.held = false := by simp [credit, waiting]
  unfold lookForGrant
  dsimp only
  rw [sees]
  split
  · rename_i pending
    have taken : (c.data.take .spaceReady).2.notFull = true := (Bool.and_true _).trans pending
    have cleared : (c.data.take .spaceReady).1.signals.notFull = false := Bool.and_false _
    simp only [taken]
    have after : Capture.credit { c with data := (c.data.take .spaceReady).1, point := .granted } =
        ⟨false, true, c.tally.iterations⟩ := by simp [credit, cleared]
    rw [after]
    exact .accepted pending unheld
  · rw [same]
    exact .still ungranted

theorem credit_endRequest {event : CaptureEvent} (ungranting : event.grants = false)
    (requesting : c.point = .requesting) (ends : RequestEnd) :
    c.credit.Move event (c.endRequest ends).2.seen.notFull (c.endRequest ends).2.offered
      (c.endRequest ends).1.credit := by
  obtain ⟨point, notices, same, there⟩ := c.endRequest_eq ends
  have ungranted : point ≠ .granted := by
    rcases there with rfl | rfl | rfl <;> simp [requesting]
  rw [same]
  exact credit_still ungranting rfl rfl (by simp [requesting, ungranted])

theorem credit_proceed (c : Capture) :
    c.credit.Move .proceed (c.accepts .proceed) c.proceed.2.offered c.proceed.1.credit := by
  have accepts : c.accepts .proceed = c.proceed.2.seen.notFull := Bool.true_and _
  rw [accepts]
  cases point : c.point with
  | waiting =>
    simp only [proceed, point]
    exact credit_lookForGrant point rfl rfl
  | granted =>
    simp only [proceed, point]
    exact .began _ (decide_eq_true point)
  | launched =>
    simp only [proceed, point]
    split
    · exact credit_still rfl rfl rfl (by simp [point])
    · exact credit_still rfl rfl rfl (by simp [point])
  | requesting =>
    simp only [proceed, point]
    exact credit_endRequest rfl point _
  | testing =>
    simp only [proceed, point]
    exact credit_still rfl rfl rfl (by split <;> simp [point])
  | recording =>
    simp only [proceed, point, publishRecord]
    split <;> exact credit_still rfl rfl rfl (by simp [point])
  | signalling =>
    simp only [proceed, point]
    exact credit_still rfl (Bool.or_false _) rfl (by simp [point])
  | entering | storing | leaving | reading | ended | brokenDown =>
    simp only [proceed, point, publish]
    exact credit_still rfl rfl rfl (by simp [point])

theorem credit_expire (c : Capture) :
    c.credit.Move .expire (c.accepts .expire) c.expire.2.offered c.expire.1.credit := by
  have accepts : c.accepts .expire = c.expire.2.seen.notFull := Bool.true_and _
  rw [accepts]
  unfold expire
  split
  · rename_i waiting
    exact credit_lookForGrant waiting (by simp [credit, waiting]) rfl
  · exact .still rfl

/-- What a step does to the grants of the thread. -/
theorem step_credit (c : Capture) (event : CaptureEvent) :
    c.credit.Move event (c.accepts event) (c.step event).2.offered (c.step event).1.credit := by
  cases event with
  | proceed => exact c.credit_proceed
  | expire => exact c.credit_expire
  | letGo =>
    show c.credit.Move .letGo false c.letGo.2.offered c.letGo.1.credit
    unfold letGo
    split
    · rename_i requesting _
      have unseen : (c.endRequest (c.requester.release c.priority)).2.seen.notFull = false := by
        obtain ⟨point, notices, same, -⟩ := c.endRequest_eq (c.requester.release c.priority)
        rw [same]
      exact unseen ▸ credit_endRequest rfl requesting _
    · exact .still rfl
  | returned read =>
    show c.credit.Move (.returned read) false (c.returned read).2.offered (c.returned read).1.credit
    unfold returned
    split
    · rename_i free reading
      dsimp only
      split <;> exact credit_still rfl rfl rfl (by simp [reading])
    · exact .still rfl
  | stop =>
    show c.credit.Move .stop false none c.stop.credit
    unfold stop
    split
    · exact .still rfl
    · split <;> exact .still rfl
    · exact .still rfl
    · exact .still rfl
  | join =>
    show c.credit.Move .join false c.join.2.offered c.join.1.credit
    unfold join
    split <;> exact .still rfl
  | wake mask =>
    show c.credit.Move (.wake mask) false none ⟨c.data.signals.notFull || mask.notFull, _, _⟩
    cases grants : mask.notFull with
    | true =>
      rw [Bool.or_true]
      exact .granted grants
    | false =>
      rw [Bool.or_false]
      exact .still grants
  | take mask =>
    show c.credit.Move (.take mask) false none ⟨c.data.signals.notFull && !mask.notFull, _, _⟩
    cases withdraws : mask.notFull with
    | true =>
      rw [Bool.not_true, Bool.and_false]
      exact .withdrawn withdraws
    | false =>
      rw [Bool.not_false, Bool.and_true]
      exact .still rfl
  | drain | nextRecord => exact .still rfl

/-! ## Grants of a run -/

theorem accepted_append (c : Capture) (first second : List CaptureEvent) :
    c.accepted (first ++ second) = c.accepted first + (c.run first).accepted second := by
  induction first generalizing c with
  | nil => exact (Nat.zero_add _).symm
  | cons event first ih =>
    show _ + (c.step event).1.accepted (first ++ second) = _ + _ + _
    rw [ih, Nat.add_assoc]
    rfl

/-- The grants of a run: a read begins, or is about to, for each that the thread takes; each that it
takes was given; and none is lost but to others that take it and by being given twice. -/
theorem ledger_run (c : Capture) (events : List CaptureEvent) :
    (c.run events).credit.begun = c.credit.begun + (c.offers events).length ∧
      (c.offers events).length + (c.run events).credit.held.toNat =
        c.credit.held.toNat + c.accepted events ∧
      c.accepted events + (c.run events).credit.pending.toNat ≤
        c.credit.pending.toNat + events.countP CaptureEvent.grants ∧
      ((∀ event ∈ events, event.grants = false) → (∀ event ∈ events, event.withdraws = false) →
        c.accepted events + (c.run events).credit.pending.toNat = c.credit.pending.toNat) := by
  induction events generalizing c with
  | nil =>
    exact ⟨rfl, Nat.add_comm _ _, Nat.le_of_eq (Nat.add_comm _ _), fun _ _ => Nat.zero_add _⟩
  | cons event events ih =>
    obtain ⟨begun, taken, given, kept⟩ := (c.step_credit event).ledger
    obtain ⟨laterBegun, laterTaken, laterGiven, laterKept⟩ := ih (c.step event).1
    have all : (event :: events).countP CaptureEvent.grants =
        events.countP CaptureEvent.grants + event.grants.toNat := by
      rw [List.countP_cons]
      cases event.grants <;> rfl
    rw [offers_cons, List.length_append, accepted, all]
    simp only [run, List.mem_cons, forall_eq_or_imp]
    refine ⟨by omega, by omega, by omega, ?_⟩
    intro ungranted unwithdrawn
    have first := kept ungranted.1 unwithdrawn.1
    have rest := laterKept ungranted.2 unwithdrawn.2
    omega

/-! ## Where a grant comes from -/

/-- A grant was given in a run, and the thread has taken `count` since. -/
def Given (c : Capture) (events : List CaptureEvent) (count : Nat) : Prop :=
  ∃ earlier grant between, events = earlier ++ grant :: between ∧ grant.grants = true ∧
    (c.run (earlier ++ [grant])).accepted between = count

theorem Given.cons {count : Nat} (given : (c.step event).1.Given events count) :
    c.Given (event :: events) count := by
  obtain ⟨earlier, grant, between, rfl, grants, taken⟩ := given
  exact ⟨event :: earlier, grant, between, rfl, grants, taken⟩

/-- A grant that is there to be taken after a run was given in it since the thread took the last, or
was there before. The one that the thread has taken and not used was given in it since it took the
one before, or was there before, or had been taken already. -/
theorem given_run (c : Capture) (events : List CaptureEvent) :
    ((c.run events).credit.pending = true →
        c.Given events 0 ∨ c.credit.pending = true ∧ c.accepted events = 0) ∧
      ((c.run events).credit.held = true →
        c.Given events 1 ∨ c.credit.pending = true ∧ c.accepted events = 1 ∨
          c.credit.held = true ∧ c.accepted events = 0) := by
  induction events generalizing c with
  | nil => exact ⟨fun pending => .inr ⟨pending, rfl⟩, fun held => .inr (.inr ⟨held, rfl⟩)⟩
  | cons event events ih =>
    have move := c.step_credit event
    obtain ⟨pending, held⟩ := ih (c.step event).1
    -- what was given later was given in the whole run
    replace pending := fun there => (pending there).imp_left Given.cons
    replace held := fun there => (held there).imp_left Given.cons
    have first (count : Nat) (grants : event.grants = true)
        (taken : (c.step event).1.accepted events = count) : c.Given (event :: events) count :=
      ⟨[], event, events, rfl, grants, taken⟩
    rw [run, accepted]
    generalize c.accepts event = accepted at move ⊢
    generalize (c.step event).2.offered = offered at move
    generalize (c.step event).1.credit = next at move pending held
    generalize (c.step event).1.accepted events = more at pending held first ⊢
    cases move with
    | still =>
      simp only [Bool.toNat_false, Nat.zero_add]
      exact ⟨pending, held⟩
    | granted grants =>
      simp only [Bool.toNat_false, Nat.zero_add]
      refine ⟨fun there => ?_, fun there => ?_⟩
      · rcases pending there with given | ⟨-, none⟩
        · exact .inl given
        · exact .inl (first 0 grants none)
      · rcases held there with given | ⟨-, one⟩ | before
        · exact .inl given
        · exact .inl (first 1 grants one)
        · exact .inr (.inr before)
    | withdrawn =>
      simp only [Bool.toNat_false, Nat.zero_add]
      refine ⟨fun there => ?_, fun there => ?_⟩
      · rcases pending there with given | ⟨cleared, -⟩
        · exact .inl given
        · cases cleared
      · rcases held there with given | ⟨cleared, -⟩ | before
        · exact .inl given
        · cases cleared
        · exact .inr (.inr before)
    | accepted before =>
      refine ⟨fun there => ?_, fun there => ?_⟩
      · rcases pending there with given | ⟨cleared, -⟩
        · exact .inl given
        · cases cleared
      · rcases held there with given | ⟨cleared, -⟩ | ⟨-, none⟩
        · exact .inl given
        · cases cleared
        · exact .inr (.inl ⟨before, congrArg (1 + ·) none⟩)
    | began =>
      simp only [Bool.toNat_false, Nat.zero_add]
      refine ⟨pending, fun there => ?_⟩
      rcases held there with given | before | ⟨unheld, -⟩
      · exact .inl given
      · exact .inr (.inl before)
      · cases unheld

end Capture

/-! ## Steps to the reads that were granted -/

/-- How many steps a thread takes at most until it begins a read, if it is not to stop and there is
a grant for it. -/
def CapturePoint.untilRead : CapturePoint → Nat
  | .ended | .brokenDown => 0
  | .granted | .leaving => 1
  | .waiting => 2
  | .testing => 3
  | .entering | .signalling => 4
  | .requesting | .recording _ => 5
  | .launched | .storing _ _ => 6
  | .reading _ => 7

theorem CapturePoint.untilRead_le (point : CapturePoint) : point.untilRead ≤ 7 := by
  cases point <;> simp [untilRead]

namespace ThreadControl

variable {h next : ThreadControl} {event : CaptureEvent} {offered : Option Nat}

/-- Only a thread that is to stop leaves its loop. -/
def Stays (h : ThreadControl) : Prop := h.point = .leaving ∨ h.point = .ended → h.stopFlag = true

theorem Stays.move (stays : h.Stays) (move : h.Move event offered next) : next.Stays := by
  cases move with
  | still | marked | missed | returned | joined => exact stays
  | flagged => exact fun _ => rfl
  | @went point next here leads =>
    rintro (there | there)
    · change next = .leaving at there
      subst there
      cases leads with
      | stops flag => exact flag
    · change next = .ended at there
      subst there
      cases leads
  | began | brokeDown | entered =>
    rintro (there | there)
    · cases there
    · cases there
  | left here => exact fun _ => stays (.inl here)

/-- A thread that is not to stop comes nearer to its next read whenever it goes anywhere, but for
the beginning of that read and the end of a wait. -/
theorem Move.untilRead (move : h.Move event offered next) (going : h.stopFlag = false) :
    next.point = h.point ∨ h.point = .granted ∨ h.point = .waiting ∧ next.point = .testing ∨
      next.point.untilRead < h.point.untilRead := by
  cases move with
  | still | flagged | marked | missed | returned | joined => exact .inl rfl
  | @went point next here leads =>
    rw [going] at leads
    show next = h.point ∨ _ ∨ _ ∧ next = .testing ∨ next.untilRead < _
    rw [here]
    cases leads with
    | stops flag => cases flag
    | expires => exact .inr (.inr (.inl ⟨rfl, rfl⟩))
    | _ => exact .inr (.inr (.inr (by simp [CapturePoint.untilRead])))
  | began free here => exact .inr (.inl here)
  | brokeDown here =>
    refine .inr (.inr (.inr ?_))
    rcases here with ⟨here, -⟩ | ⟨⟨free, here⟩, -⟩ <;> simp [here, CapturePoint.untilRead]
  | entered here | left here => exact .inr (.inr (.inr (by simp [here, CapturePoint.untilRead])))

end ThreadControl

namespace Capture

variable {c : Capture} {event : CaptureEvent}

theorem stays_run (stays : c.control.Stays) (events : List CaptureEvent) :
    (c.run events).control.Stays :=
  control_induction ThreadControl.Stays (fun move stays => stays.move move) stays events

/-- A wait does not end without the grant that is there. -/
theorem point_step_of_pending (waiting : c.point = .waiting) (pending : c.credit.pending = true)
    (event : CaptureEvent) : (c.step event).1.point ≠ .testing := by
  have looked (expired : Capture) : (c.lookForGrant expired).1.point ≠ .testing := by
    change c.data.signals.notFull = true at pending
    rw [lookForGrant_fst, if_pos pending]
    simp
  cases event with
  | proceed =>
    simp only [step, proceed, waiting]
    exact looked c
  | expire =>
    simp only [step, expire, waiting]
    exact looked _
  | letGo => simp [step, letGo, waiting]
  | returned => simp [step, returned, waiting]
  | join => simp [step, join, waiting]
  | stop =>
    simp only [step, stop]
    split
    · simp [waiting]
    · split <;> simp [waiting]
    · simp [waiting]
    · simp [waiting]
  | wake | take | drain | nextRecord => simp [step, wake, take, drain, nextRecord, waiting]

/-- A thread for which there is a grant and that is not to stop comes nearer to its next read
whenever it goes anywhere, but for the beginning of that read. -/
theorem untilRead_step (going : c.stopFlag = false) (event : CaptureEvent) :
    (c.step event).1.point = c.point ∨ c.point = .granted ∨ c.credit.pending = false ∨
      (c.step event).1.point.untilRead < c.point.untilRead := by
  rcases (c.step_control event).untilRead going with same | granted | ⟨waiting, testing⟩ | nearer
  · exact .inl same
  · exact .inr (.inl granted)
  · cases pending : c.credit.pending with
    | true => exact absurd testing (point_step_of_pending waiting pending event)
    | false => exact .inr (.inr (.inl rfl))
  · exact .inr (.inr (.inr nearer))

end Capture

/-- How many steps a thread with these grants takes at most until it has used them up. -/
def Credit.toGo (k : Credit) (point : CapturePoint) : Nat :=
  if k.pending then if k.held then 8 else point.untilRead else k.held.toNat

/-- No step takes a thread further away from using up its grants, and each that takes it anywhere
brings it nearer. -/
theorem Credit.Move.toGo {k next : Credit} {event : CaptureEvent} {accepted : Bool}
    {offered : Option Nat} {point after : CapturePoint} (move : k.Move event accepted offered next)
    (ungranted : event.grants = false) (unwithdrawn : event.withdraws = false)
    (before : k.held = decide (point = .granted)) (held : next.held = decide (after = .granted))
    (leads : after = point ∨ point = .granted ∨ k.pending = false ∨
      after.untilRead < point.untilRead) :
    next.toGo after ≤ k.toGo point ∧
      (after ≠ point → next.toGo after ≤ k.toGo point - 1) := by
  have most := after.untilRead_le
  cases move with
  | granted granted => exact absurd (ungranted.symm.trans granted) nofun
  | withdrawn withdrawn => exact absurd (unwithdrawn.symm.trans withdrawn) nofun
  | still =>
    cases holding : k.held with
    | true =>
      -- a thread that has taken a grant goes on only to begin a read
      rw [holding] at before held
      have here : point = .granted := of_decide_eq_true before.symm
      have there : after = .granted := of_decide_eq_true held.symm
      rw [there, here]
      exact ⟨Nat.le_refl _, fun elsewhere => absurd rfl elsewhere⟩
    | false =>
      have unheld : point ≠ .granted := by
        rw [holding] at before
        exact of_decide_eq_false before.symm
      cases pending : k.pending with
      | false => simp [Credit.toGo, pending, holding]
      | true =>
        rw [pending] at leads
        simp only [Credit.toGo, pending, holding, if_true]
        rcases leads with rfl | granted | none | nearer
        · exact ⟨Nat.le_refl _, fun elsewhere => absurd rfl elsewhere⟩
        · exact absurd granted unheld
        · cases none
        · exact ⟨Nat.le_of_lt nearer, fun _ => Nat.le_sub_one_of_lt nearer⟩
  | accepted pending holding =>
    rw [holding] at before
    have there : after = .granted := of_decide_eq_true held.symm
    have unheld : point ≠ .granted := of_decide_eq_false before.symm
    have nearer : after.untilRead < point.untilRead := by
      rcases leads with same | granted | none | nearer
      · exact absurd (same.symm.trans there) unheld
      · exact absurd granted unheld
      · cases none.symm.trans pending
      · exact nearer
    rw [there] at nearer
    simp only [Credit.toGo, pending, holding, if_true]
    exact ⟨Nat.le_of_lt nearer, fun _ => Nat.le_sub_one_of_lt nearer⟩
  | began free holding =>
    simp only [Credit.toGo, holding, if_true]
    cases k.pending with
    | true => exact ⟨Nat.le_succ_of_le most, fun _ => most⟩
    | false => exact ⟨Nat.zero_le _, fun _ => Nat.zero_le _⟩

namespace Capture

variable {c : Capture} {event : CaptureEvent} {events : List CaptureEvent}

def toGo (c : Capture) : Nat := c.credit.toGo c.point

theorem toGo_le (c : Capture) : c.toGo ≤ 8 := by
  have most := c.point.untilRead_le
  unfold toGo Credit.toGo
  split
  · split
    · exact Nat.le_refl _
    · exact Nat.le_succ_of_le most
  · exact Nat.le_trans (Bool.toNat_le _) (by decide)

theorem toGo_step (going : c.stopFlag = false) (ungranted : event.grants = false)
    (unwithdrawn : event.withdraws = false) :
    (c.step event).1.toGo ≤ c.toGo ∧
      ((c.step event).1.point ≠ c.point → (c.step event).1.toGo ≤ c.toGo - 1) :=
  (c.step_credit event).toGo ungranted unwithdrawn rfl rfl (untilRead_step going event)

/-- A stop flag that is not up has not been up before. -/
theorem going_of_run (going : (c.run events).stopFlag = false) : c.stopFlag = false := by
  cases stopping : c.stopFlag with
  | false => rfl
  | true => cases going.symm.trans (run_nearer stopping events).1

theorem toGo_run (undisturbed : ∀ event ∈ events, event.grants = false ∧ event.withdraws = false)
    (going : (c.run events).stopFlag = false) : (c.run events).toGo ≤ c.toGo := by
  induction events generalizing c with
  | nil => exact Nat.le_refl _
  | cons event events ih =>
    obtain ⟨⟨ungranted, unwithdrawn⟩, later⟩ := List.forall_mem_cons.1 undisturbed
    have before : c.stopFlag = false := @going_of_run c (event :: events) going
    exact Nat.le_trans (ih later going) (toGo_step before ungranted unwithdrawn).1

theorem due_undisturbed (c : Capture) (read : DeviceRead) :
    (c.due read).grants = false ∧ (c.due read).withdraws = false := by
  unfold due
  split
  · exact ⟨rfl, rfl⟩
  · exact ⟨rfl, rfl⟩
  · split <;> exact ⟨rfl, rfl⟩
  · exact ⟨rfl, rfl⟩

/-- A thread that takes no more steps does not come any nearer to a read. -/
theorem toGo_of_isFinal (final : c.point.isFinal = true) : c.toGo = 0 := by
  unfold toGo Credit.toGo credit
  cases point : c.point with
  | ended | brokenDown => simp [CapturePoint.untilRead]
  | _ =>
    rw [point] at final
    cases final

/-- Each step of its own takes a thread nearer to using up its grants. -/
theorem toGo_due (going : c.stopFlag = false) (read : DeviceRead) :
    (c.step (c.due read)).1.toGo ≤ c.toGo - 1 := by
  obtain ⟨ungranted, unwithdrawn⟩ := c.due_undisturbed read
  obtain ⟨stays, nearer⟩ := toGo_step going ungranted unwithdrawn
  cases final : c.point.isFinal with
  | false => exact nearer (point_due_ne final read)
  | true =>
    rw [toGo_of_isFinal final] at stays
    exact Nat.le_trans stays (Nat.zero_le _)

/-- Nobody but the thread gives or takes grants meanwhile. -/
def Round.Undisturbed (round : Round) : Prop :=
  ∀ event ∈ round.meanwhile, event.grants = false ∧ event.withdraws = false

theorem onward_undisturbed {rounds : List Round}
    (undisturbed : ∀ round ∈ rounds, round.Undisturbed) :
    ∀ event ∈ c.onward rounds, event.grants = false ∧ event.withdraws = false := by
  induction rounds generalizing c with
  | nil => exact nofun
  | cons round rounds ih =>
    obtain ⟨first, later⟩ := List.forall_mem_cons.1 undisturbed
    intro event member
    rw [onward, List.mem_append, List.mem_cons] at member
    rcases member with meanwhile | rfl | after
    · exact first event meanwhile
    · exact due_undisturbed _ _
    · exact ih later event after

theorem toGo_goOn {rounds : List Round} (undisturbed : ∀ round ∈ rounds, round.Undisturbed)
    (going : (c.goOn rounds).stopFlag = false) : (c.goOn rounds).toGo ≤ c.toGo - rounds.length := by
  induction rounds generalizing c with
  | nil => exact Nat.le_refl _
  | cons round rounds ih =>
    obtain ⟨first, later⟩ := List.forall_mem_cons.1 undisturbed
    have rest := ih later going
    rw [← run_onward] at going
    have after : (c.run round.meanwhile).stopFlag = false := by
      rw [onward, run_append] at going
      exact going_of_run going
    have own := toGo_due after round.read
    have before := toGo_run first after
    rw [List.length_cons]
    show (goOn _ rounds).toGo ≤ _
    omega

theorem count_of_toGo (stays : c.control.Stays) (going : c.stopFlag = false)
    (unbroken : c.point ≠ .brokenDown) (none : c.toGo = 0) : c.credit.count = 0 := by
  unfold toGo Credit.toGo at none
  cases pending : c.credit.pending with
  | false =>
    rw [pending] at none
    rw [Credit.count, pending]
    exact (Nat.zero_add _).trans none
  | true =>
    -- only at its end is a thread with a grant not on its way to a read
    rw [pending, if_pos rfl] at none
    split at none
    · cases none
    · cases point : c.point with
      | ended => cases (stays (.inr point)).symm.trans going
      | brokenDown => exact absurd point unbroken
      | _ =>
        rw [point] at none
        cases none

/-- The reads that a thread is going to begin for grants that have been given. -/
structure Owes (c : Capture) (count : Nat) : Prop where
  /-- No others begin before another grant is given. -/
  most : ∀ later, (∀ event ∈ later, event.grants = false) → (c.offers later).length ≤ count
  /-- They have begun after eight steps of its own, if nobody takes a grant away from the thread or
  asks it to stop, and unless it breaks down. -/
  all : ∀ rounds : List Round, (∀ round ∈ rounds, round.Undisturbed) → 8 ≤ rounds.length →
    (c.goOn rounds).stopFlag = false →
      (c.goOn rounds).point = .brokenDown ∨ (c.offers (c.onward rounds)).length = count

theorem owes_count (stays : c.control.Stays) : c.Owes c.credit.count := by
  refine ⟨?_, ?_⟩
  · intro later ungranted
    obtain ⟨-, begun, given, -⟩ := c.ledger_run later
    have none : later.countP CaptureEvent.grants = 0 :=
      List.countP_eq_zero.2 fun event member => Bool.eq_false_iff.1 (ungranted event member)
    unfold Credit.count
    omega
  · intro rounds undisturbed enough going
    by_cases broken : (c.goOn rounds).point = .brokenDown
    · exact .inl broken
    refine .inr ?_
    have still : (c.goOn rounds).control.Stays := by
      rw [← run_onward]
      exact stays_run stays _
    have nearer := toGo_goOn undisturbed going
    have none : (c.goOn rounds).toGo = 0 := by
      have start := c.toGo_le
      omega
    have used := count_of_toGo still going broken none
    obtain ⟨-, begun, -, kept⟩ := c.ledger_run (c.onward rounds)
    have alone := onward_undisturbed (c := c) undisturbed
    have conserved := kept (fun event member => (alone event member).1)
      fun event member => (alone event member).2
    rw [run_onward] at begun conserved
    unfold Credit.count at used ⊢
    omega

/-- A grant that neither the thread nor anybody else takes stays there. -/
theorem pending_run (pending : c.credit.pending = true)
    (unwithdrawn : ∀ event ∈ events, event.withdraws = false) (unanswered : c.accepted events = 0) :
    (c.run events).credit.pending = true := by
  induction events generalizing c with
  | nil => exact pending
  | cons event events ih =>
    obtain ⟨first, later⟩ := List.forall_mem_cons.1 unwithdrawn
    obtain ⟨untaken, rest⟩ := Nat.add_eq_zero_iff.1 unanswered
    refine ih ?_ later rest
    have move := c.step_credit event
    generalize c.accepts event = accepted at move untaken
    generalize (c.step event).2.offered = offered at move
    generalize (c.step event).1.credit = next at move ⊢
    cases move with
    | still | began => exact pending
    | granted => rfl
    | withdrawn withdrawn => exact absurd (first.symm.trans withdrawn) nofun
    | accepted => cases untaken

theorem pending_of_grants (grants : event.grants = true) :
    (c.step event).1.credit.pending = true := by
  cases event with
  | wake mask =>
    show (c.data.signals.notFull || mask.notFull) = true
    rw [show mask.notFull = true from grants, Bool.or_true]
  | _ => cases grants

/-- A grant that was given in a run and taken by nobody is there after it. -/
theorem pending_of_unanswered (granted : ∃ event ∈ events, event.grants = true)
    (unwithdrawn : ∀ event ∈ events, event.withdraws = false) (unanswered : c.accepted events = 0) :
    (c.run events).credit.pending = true := by
  obtain ⟨event, member, grants⟩ := granted
  obtain ⟨first, rest, rfl⟩ := List.append_of_mem member
  rw [accepted_append] at unanswered
  have later := (Nat.add_eq_zero_iff.1 (Nat.add_eq_zero_iff.1 unanswered).2).2
  rw [run_append]
  show (((c.run first).step event).1.run rest).credit.pending = true
  refine pending_run (pending_of_grants grants) (fun after member => ?_) later
  exact unwithdrawn after (List.mem_append_right first (List.mem_cons_of_mem event member))

end Capture

/-- **Grants**: whatever the consumer and others do with the signals, a read begins only if a grant
was given since the thread took the one before, so there are never more reads than grants were
given. All that are given before the thread takes one, and are not taken by others, make for one
read, beside the one that the thread is about to begin if it has taken a grant before; and so does
one that is given while the thread is in a read. -/
theorem Capture.reads_granted {chunkSize chunkCount : Nat} {priority : ThreadPriority}
    {requester : Requester} (events : List CaptureEvent) :
    let c := fresh chunkSize chunkCount priority requester
    let now := c.run events
    (∀ event free, (now.step event).2.offered = some free → c.Given events 1) ∧
      (now.tally.iterations = (c.offers events).length ∧
        now.tally.iterations ≤ events.countP CaptureEvent.grants) ∧
      (∀ burst, (∃ event ∈ burst, event.grants = true) →
        (∀ event ∈ burst, event.withdraws = false) → now.accepted burst = 0 →
          ∃ count, (now.run burst).Owes count ∧
            (now.offers burst).length + count = if now.point = .granted then 2 else 1) ∧
      ∀ free mask, now.point = .reading free → mask.notFull = true → (now.wake mask).Owes 1 := by
  intro c now
  have stays : now.control.Stays := stays_run (c := c) nofun events
  obtain ⟨begun, taken, given, -⟩ := c.ledger_run events
  have iterations : now.tally.iterations = (c.offers events).length :=
    begun.trans (Nat.zero_add _)
  refine ⟨?_, ⟨iterations, ?_⟩, ?_, ?_⟩
  · intro event free offered
    have move := now.step_control event
    rw [offered] at move
    have granted : now.point = .granted := move.granted
    have held : now.credit.held = true := decide_eq_true granted
    rcases (c.given_run events).2 held with given | ⟨pending, -⟩ | ⟨before, -⟩
    · exact given
    · cases pending
    · cases before
  · have start : c.credit.pending.toNat = 0 ∧ c.credit.held.toNat = 0 := ⟨rfl, rfl⟩
    omega
  · intro burst granted unwithdrawn unanswered
    obtain ⟨-, used, -, -⟩ := now.ledger_run burst
    have pending := pending_of_unanswered granted unwithdrawn unanswered
    refine ⟨_, owes_count (stays_run stays burst), ?_⟩
    have held : now.credit.held = decide (now.point = .granted) := rfl
    rw [unanswered, held] at used
    rw [Credit.count, pending, Bool.toNat_true]
    split
    · rename_i here
      rw [decide_eq_true here, Bool.toNat_true] at used
      omega
    · rename_i elsewhere
      rw [decide_eq_false elsewhere, Bool.toNat_false] at used
      omega
  · intro free mask reading grants
    have pending : (now.wake mask).credit.pending = true :=
      @pending_of_grants now (.wake mask) grants
    have held : (now.wake mask).credit.held = false := by
      show decide (now.point = .granted) = false
      rw [reading]
      rfl
    have owes := owes_count (c := now.wake mask) stays
    rw [Credit.count, pending, held] at owes
    exact owes

/-- Two grants that are given while the thread starts make for one read, and one that is given
during that read for another. -/
theorem Capture.reads_granted_coalesced :
    let c := fresh 2 2 .normal .ignoring
    let burst : List CaptureEvent := [.wake .spaceReady, .proceed, .wake .spaceReady, .proceed]
    let begun := burst ++ [.proceed, .expire, .proceed]
    let rounds : List Round :=
      List.replicate 8 { meanwhile := [], read := { ending := .failed .io } }
    let asked := (c.run begun).wake .spaceReady
    (c.accepted burst = 0 ∧ (c.run burst).Owes 1) ∧ c.offers begun = [4] ∧ asked.Owes 1 ∧
      (asked.offers (asked.onward rounds)).length = 1 := by
  intro c burst begun rounds asked
  obtain ⟨-, -, coalesced, -⟩ := @reads_granted 2 2 .normal .ignoring []
  obtain ⟨-, -, -, further⟩ := @reads_granted 2 2 .normal .ignoring begun
  have unanswered : c.accepted burst = 0 := by decide
  have once : (c.run burst).Owes 1 := by
    obtain ⟨count, owes, total⟩ :=
      coalesced burst ⟨_, List.mem_cons_self, rfl⟩ (by decide) unanswered
    have none : (c.offers burst).length = 0 := by decide
    change (c.offers burst).length + count = 1 at total
    rw [none, Nat.zero_add] at total
    exact total ▸ owes
  have again : asked.Owes 1 := further 4 .spaceReady (by decide) rfl
  have undisturbed : ∀ round ∈ rounds, round.Undisturbed := by
    intro round member
    rw [List.eq_of_mem_replicate member]
    exact nofun
  have done := again.all rounds undisturbed (by decide) (by decide)
  exact ⟨⟨unanswered, once⟩, by decide, again, done.resolve_left (by decide)⟩

end AudioCapture
