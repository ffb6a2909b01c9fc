import AudioCapture.Bench.Queue
import AudioCapture.Proofs.Signal.Word
import AudioCapture.Signal.Group

/-!
# One signal group at a time

At any time at most one signal group uses the word of a queue, the mark of the queue says whether
one does, and while none does the word is clear (`SharedQueue.Kept`). A group clears the word before
it takes back the mark, so that the next one to be made finds no signals of its predecessor
(`one_group_at_a_time`).

* `Kept.settle`, `Kept.word`, `Kept.create` — what a step preserves; `Kept.run` — what a run does;
* `run_ops` — waits and wakes of any threads come down to the steps of a group;
* `QueueBench.shared_makeGroup` and the theorems behind it — the same of a queue on the bench.
-/

namespace AudioCapture

variable {α : Type}

namespace SharedQueue

variable {s : SharedQueue α} {ring : Ring α} {queue : Queue α} {group other : Nat}
  {phase : GroupPhase}

/-- No more than one group has the word, which is clear when nobody can use it. -/
structure Kept (ring : Ring α) (s : SharedQueue α) : Prop where
  single : ∀ g h, s.Present g → s.Present h → g = h
  marked : s.queue.bound = true ↔ ∃ g, s.Present g
  clear : (∀ g, s.phase g ≠ .alive) → s.queue.signals = {}
  ring : s.queue.ring = ring

theorem present_of_alive (alive : s.phase group = .alive) : s.Present group := by
  simp [Present, alive]

theorem present_of_leaving (leaving : s.phase group = .leaving) : s.Present group := by
  simp [Present, leaving]

/-! ## Making a group -/

theorem create_of_bound (bound : s.queue.bound = true) :
    s.create = (.error Queue.alreadyBound, s) := by
  simp [create, Queue.bind?, bound]

theorem create_of_unbound (unbound : s.queue.bound = false) :
    s.create = (.ok s.groups.length, s.enroll { s.queue with bound := true }) := by
  simp [create, Queue.bind?, unbound]

/-! ## Steps -/

theorem kept_fresh (ring : Ring α) : Kept ring ({ queue := { ring } } : SharedQueue α) := by
  have none : ∀ g, ¬ ({ queue := { ring } } : SharedQueue α).Present g := by
    intro g present
    exact Nat.not_lt_zero g present.lt_length
  exact ⟨fun g h there => absurd there (none g),
    iff_of_false (by simp) fun ⟨g, there⟩ => none g there, fun _ => rfl, rfl⟩

/-- A group that is there goes into another phase, with the mark and the word as that needs them. -/
theorem Kept.settle (kept : Kept ring s) (present : s.Present group)
    (marks : queue.bound = true ↔ phase ≠ .gone) (cleared : phase ≠ .alive → queue.signals = {})
    (same : queue.ring = s.queue.ring) : Kept ring (s.settle group phase queue) := by
  have phases := phase_settle present phase queue
  have before : ∀ g, (s.settle group phase queue).Present g → s.Present g := by
    intro g there
    by_cases this : g = group
    · rwa [this]
    · rwa [Present, phases, if_neg this] at there
  have here : (s.settle group phase queue).Present group ↔ phase ≠ .gone := by
    rw [Present, phases, if_pos rfl]
  refine ⟨fun g h first second => kept.single g h (before g first) (before h second), ?_, ?_,
    same.trans kept.ring⟩
  · constructor
    · intro bound
      exact ⟨group, here.2 (marks.1 bound)⟩
    · rintro ⟨g, there⟩
      have only := kept.single g group (before g there) present
      subst only
      exact marks.2 (here.1 there)
  · intro dead
    apply cleared
    simpa [phases] using dead group

/-- A group that is alive works on the word. -/
theorem Kept.word (kept : Kept ring s) (alive : s.phase group = .alive) (signals : Signals) :
    Kept ring { s with queue := { s.queue with signals } } :=
  ⟨kept.single, kept.marked, fun dead => absurd alive (dead group), kept.ring⟩

theorem Kept.unbound (kept : Kept ring s) (none : ∀ g, ¬ s.Present g) :
    s.queue.bound = false := by
  rw [← Bool.not_eq_true, kept.marked]
  rintro ⟨g, there⟩
  exact none g there

theorem Kept.create (kept : Kept ring s) : Kept ring s.create.2 := by
  cases bound : s.queue.bound with
  | true => rwa [create_of_bound bound]
  | false =>
      have none : ∀ g, ¬ s.Present g := by
        intro g there
        simp [kept.marked.2 ⟨g, there⟩] at bound
      rw [create_of_unbound bound]
      have only : ∀ g, (s.enroll { s.queue with bound := true }).Present g ↔
          g = s.groups.length := by
        intro g
        rw [Present, phase_enroll]
        split
        · simp [*]
        · rename_i elsewhere
          simpa [elsewhere, Present] using none g
      refine ⟨?_, iff_of_true rfl ⟨_, (only _).2 rfl⟩, ?_, kept.ring⟩
      · intro g h first second
        rw [(only g).1 first, (only h).1 second]
      · intro dead
        refine absurd ?_ (dead s.groups.length)
        rw [phase_enroll, if_pos rfl]

/-- A step keeps the groups apart, whoever takes it. -/
theorem Kept.step (kept : Kept ring s) (event : GroupEvent) : Kept ring (s.step event) := by
  cases event with
  | create => exact kept.create
  | wake group mask =>
      simp only [SharedQueue.step]
      split
      · rename_i alive
        exact kept.word alive _
      · exact kept
  | look group mask =>
      simp only [SharedQueue.step]
      split
      · rename_i alive
        exact kept.word alive _
      · exact kept
  | clear group =>
      simp only [SharedQueue.step]
      split
      · rename_i alive
        have present := present_of_alive alive
        exact kept.settle present (iff_of_true (kept.marked.2 ⟨group, present⟩) nofun)
          (fun _ => rfl) rfl
      · exact kept
  | unmark group =>
      simp only [SharedQueue.step]
      split
      · rename_i leaving
        have present := present_of_leaving leaving
        -- the word was cleared before, and nobody else can have set a bit since
        have dead : ∀ g, s.phase g ≠ .alive := by
          intro g alive
          rw [kept.single g group (present_of_alive alive) present, leaving] at alive
          cases alive
        exact kept.settle present (iff_of_false nofun (by simp)) (fun _ => kept.clear dead) rfl
      · exact kept
  | drop group =>
      simp only [SharedQueue.step]
      split
      · rename_i alive
        exact kept.settle (present_of_alive alive) (iff_of_false nofun (by simp)) (fun _ => rfl) rfl
      · exact kept
  | dropWriter => exact ⟨kept.single, kept.marked, kept.clear, kept.ring⟩
  | dropReader => exact ⟨kept.single, kept.marked, kept.clear, kept.ring⟩

theorem Kept.run (kept : Kept ring s) (events : List GroupEvent) : Kept ring (s.run events) := by
  induction events generalizing s with
  | nil => exact kept
  | cons event events ih => exact ih (kept.step event)

/-! ## Groups given up at once -/

/-- No group is halfway through being given up. -/
def Settled (s : SharedQueue α) : Prop := ∀ g, s.phase g ≠ .leaving

theorem Settled.settle (settled : s.Settled) (present : s.Present group)
    (halfway : phase ≠ .leaving) : (s.settle group phase queue).Settled := by
  intro g
  rw [phase_settle present]
  split
  · exact halfway
  · exact settled g

theorem Settled.step (settled : s.Settled) {event : GroupEvent}
    (whole : ∀ g, event ≠ .clear g) : (s.step event).Settled := by
  cases event with
  | create =>
      simp only [SharedQueue.step]
      cases bound : s.queue.bound with
      | true => rwa [create_of_bound bound]
      | false =>
          rw [create_of_unbound bound]
          intro g
          rw [phase_enroll]
          split
          · nofun
          · exact settled g
  | wake | look =>
      simp only [SharedQueue.step]
      split <;> exact settled
  | clear group => exact absurd rfl (whole group)
  | unmark group | drop group =>
      simp only [SharedQueue.step]
      split
      · rename_i there
        exact settled.settle (by simp [Present, there]) nofun
      · exact settled
  | dropWriter => exact settled
  | dropReader => exact settled

theorem Settled.run (settled : s.Settled) {events : List GroupEvent}
    (whole : ∀ g, .clear g ∉ events) : (s.run events).Settled := by
  induction events generalizing s with
  | nil => exact settled
  | cons event events ih =>
      apply ih
      · apply settled.step
        rintro g rfl
        exact whole g List.mem_cons_self
      · intro g member
        exact whole g (List.mem_cons_of_mem event member)

theorem settled_fresh (ring : Ring α) : ({ queue := { ring } } : SharedQueue α).Settled := by
  intro g
  simp [SharedQueue.phase]

theorem Settled.present_iff (settled : s.Settled) : s.Present group ↔ s.phase group = .alive := by
  have halfway := settled group
  unfold Present
  cases here : s.phase group with
  | alive => simp
  | leaving => exact absurd here halfway
  | gone => simp

/-- However groups are made, used and given up on a queue, no two of them are there at a time and
the mark says whether one is; a group is made when none is there, with no signals, and refused
otherwise; a group that is given up makes room; and the queue itself is left alone. -/
theorem one_group_at_a_time (ring : Ring α) (events : List GroupEvent) :
    let s := ({ queue := { ring } } : SharedQueue α).run events
    (∀ g h, s.Present g → s.Present h → g = h) ∧
    (s.queue.bound = true ↔ ∃ g, s.Present g) ∧
    ((∃ g, s.Present g) → s.create = (.error (.invalidArguments
      "event flag word already bound to a signal group"), s)) ∧
    ((∀ g, ¬ s.Present g) → ∃ later, s.create = (.ok s.groups.length, later) ∧
      later.phase s.groups.length = .alive ∧ later.queue.signals = {} ∧
      later.queue.bound = true ∧ later.queue.ring = ring) ∧
    (∀ g, s.phase g = .alive → ∀ h, ¬ (s.step (.drop g)).Present h) ∧
    s.queue.ring = ring ∧
    ((∀ g, .clear g ∉ events) → ∀ g, s.Present g ↔ s.phase g = .alive) := by
  intro s
  have kept : Kept ring s := (kept_fresh ring).run events
  refine ⟨kept.single, kept.marked, fun there => create_of_bound (kept.marked.2 there), ?_, ?_,
    kept.ring, ?_⟩
  · intro none
    refine ⟨_, create_of_unbound (kept.unbound none), ?_, ?_, rfl, kept.ring⟩
    · rw [phase_enroll, if_pos rfl]
    · exact kept.clear fun g alive => none g (present_of_alive alive)
  · intro g alive h there
    have dropped : s.step (.drop g) = s.settle g .gone s.queue.unbind := if_pos alive
    have after := (kept.step (.drop g)).marked.2 ⟨h, there⟩
    rw [dropped] at after
    cases after
  · intro whole g
    exact ((settled_fresh ring).run whole).present_iff

/-! ## Waits and wakes -/

/-- What a thread does to the word of a group, as a step. -/
def wordEvent (group : Nat) : WordOp → GroupEvent
  | .raised _ mask => .wake group mask
  | .taken _ mask _ => .look group mask

/-- Threads that wait and wake do to the queue what these steps of the group do. -/
theorem run_ops (alive : s.phase group = .alive) {ops : List WordOp}
    (genuine : WordOp.Genuine s.queue.signals ops) :
    s.run (ops.map (wordEvent group)) =
      { s with queue := { s.queue with signals := ops.foldl WordOp.effect s.queue.signals } } := by
  induction ops generalizing s with
  | nil => rfl
  | cons op ops ih =>
      obtain ⟨fits, rest⟩ := genuine
      have first : s.step (wordEvent group op) =
          { s with queue := { s.queue with signals := op.effect s.queue.signals } } := by
        cases op with
        | raised thread mask =>
            simp only [wordEvent, step, if_pos alive]
            rfl
        | taken thread mask seen =>
            simp only [wordEvent, step, if_pos alive, WordOp.effect]
            rw [show seen = _ from fits, Signals.diff_inter]
            rfl
      rw [List.map_cons, run, List.foldl_cons, first]
      exact ih (s := { s with queue := { s.queue with signals := _ } }) alive rest

end SharedQueue

/-! ## On the bench -/

namespace QueueBench

variable {b : QueueBench α} {slot : Nat}

/-- The queue of a bench with the groups on it. -/
def shared (b : QueueBench α) : SharedQueue α :=
  ⟨b.queue, b.hasWriter, b.hasReader, b.groups.map fun present => if present then .alive else .gone⟩

theorem phase_shared : b.shared.phase slot = .alive ↔ b.hasGroup slot = true := by
  simp only [SharedQueue.phase, shared, hasGroup, List.getD_eq_getElem?_getD, List.getElem?_map]
  cases b.groups[slot]? with
  | none => simp
  | some present => cases present <;> simp

/-- Where groups can be made on the bench, they are made as on any queue. -/
theorem shared_makeGroup (signalled : b.signalled = true) (handles : b.handles?.isSome = true) :
    b.makeGroup.1 = some b.shared.create.1 ∧ b.makeGroup.2.shared = b.shared.step .create := by
  have usable : (!b.signalled || b.handles?.isNone) = false := by
    rw [signalled, Option.isNone_eq_false_iff.2 handles]
    rfl
  cases bound : b.queue.bound <;>
    simp [makeGroup, usable, SharedQueue.step, SharedQueue.create, SharedQueue.enroll, shared,
      Queue.bind?, bound]

theorem shared_dropGroup (there : b.hasGroup slot = true) :
    (b.dropGroup slot).shared = b.shared.step (.drop slot) := by
  rw [SharedQueue.step, if_pos (phase_shared.2 there)]
  simp [dropGroup, shared, SharedQueue.settle, List.map_set]

theorem shared_wake (there : b.hasGroup slot = true) (mask : Signals) :
    (b.wake mask).shared = b.shared.step (.wake slot mask) := by
  rw [SharedQueue.step, if_pos (phase_shared.2 there)]
  rfl

/-- What is left of waits, whoever wakes meanwhile. -/
theorem shared_leaveWait (there : b.hasGroup slot = true) (events : List SignalEvent) :
    let m : Monitor := { word := b.queue.signals }
    (b.leaveWait (m.run events)).2.shared =
      b.shared.run ((m.ops events).map (SharedQueue.wordEvent slot)) := by
  intro m
  rw [SharedQueue.run_ops (phase_shared.2 there) (m.genuine_ops events)]
  simp only [leaveWait, m.word_run]
  rfl

end QueueBench

end AudioCapture
