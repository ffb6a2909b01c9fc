import AudioCapture.Ring.Gauge
import AudioCapture.Proofs.Ring.Overlap

/-!
# Fill levels

A level query looks at the two counts at different moments. What it tells is never more than the
capacity and never more than there is to read at its second look; and a side that asks can rely on
it until its own next call, whatever the other side does in the meantime (`Gauge.safe_levels`).

* `Traffic.Onward` — both counts only grow, and each only in a call of its own side;
* `Gauge.Sound` — what has been seen of the writer's count by those whose queries are under way;
* `Sound.run_of_writer`, `Sound.run_of_reader` — while a side makes no call, the level moves in one
  direction only.
-/

namespace AudioCapture

variable {α : Type}

/-! ## The counts -/

namespace Traffic

/-- What a step may do to the counts in which one side, or none, is called for. -/
structure Onward (t : Traffic α) (caller? : Option Asker) (next : Traffic α) : Prop where
  capacity : next.ring.capacity = t.ring.capacity
  written : t.ring.written ≤ next.ring.written
  consumed : t.ring.consumed ≤ next.ring.consumed
  writer : t.isBusy .writer = false → caller? ≠ some .writer →
    next.isBusy .writer = false ∧ next.ring.written = t.ring.written
  reader : t.isBusy .reader = false → caller? ≠ some .reader →
    next.isBusy .reader = false ∧ next.ring.consumed = t.ring.consumed

theorem Onward.refl (t : Traffic α) (caller? : Option Asker) : t.Onward caller? t :=
  ⟨rfl, Nat.le_refl _, Nat.le_refl _, fun idle _ => ⟨idle, rfl⟩, fun idle _ => ⟨idle, rfl⟩⟩

theorem stepWriter_of_idle {t : Traffic α} (idle : t.isBusy .writer = false) :
    t.stepWriter.1 = t := by
  rcases t with ⟨ring, writer, reader⟩
  cases writer with
  | outside => rfl
  | called | looked | copying => cases idle

theorem stepReader_of_idle {t : Traffic α} (idle : t.isBusy .reader = false) :
    t.stepReader.1 = t := by
  rcases t with ⟨ring, writer, reader⟩
  cases reader with
  | outside => rfl
  | called | looked | copying => cases idle

/-- Where a side stands that an equal point of its own shows. -/
theorem isBusy_writer_congr {t next : Traffic α} (same : next.writer = t.writer) :
    next.isBusy .writer = t.isBusy .writer := by
  unfold isBusy
  rw [same]

theorem isBusy_reader_congr {t next : Traffic α} (same : next.reader = t.reader) :
    next.isBusy .reader = t.isBusy .reader := by
  unfold isBusy
  rw [same]

end Traffic

theorem Passage.Consistent.onward {p : Passage α} (h : p.Consistent) (event : TrafficEvent α) :
    p.traffic.Onward event.caller? (p.traffic.step event).1 := by
  cases event with
  | writer =>
    have adds := h.writes.adds
    refine ⟨adds.capacity, adds.written, Nat.le_of_eq adds.consumed.symm, fun idle _ => ?_,
      fun idle _ => ⟨?_, adds.consumed⟩⟩
    · show p.traffic.stepWriter.1.isBusy .writer = false ∧ p.traffic.stepWriter.1.ring.written = _
      rw [Traffic.stepWriter_of_idle idle]
      exact ⟨idle, rfl⟩
    · exact (Traffic.isBusy_reader_congr h.writes.reader).trans idle
  | reader =>
    have frees := h.takes.frees
    have written : p.traffic.stepReader.1.ring.written = p.traffic.ring.written := by
      rw [frees.same]
    refine ⟨?_, Nat.le_of_eq written.symm, frees.forward, fun idle _ => ⟨?_, written⟩,
      fun idle _ => ?_⟩
    · show p.traffic.stepReader.1.ring.capacity = _
      rw [frees.same]
    · exact (Traffic.isBusy_writer_congr h.takes.writer).trans idle
    · show p.traffic.stepReader.1.isBusy .reader = false ∧ p.traffic.stepReader.1.ring.consumed = _
      rw [Traffic.stepReader_of_idle idle]
      exact ⟨idle, rfl⟩
  | write items =>
    rcases p with ⟨⟨ring, writer, reader⟩⟩
    cases writer <;>
      exact ⟨rfl, Nat.le_refl _, Nat.le_refl _, fun _ own => absurd rfl own,
        fun idle _ => ⟨idle, rfl⟩⟩
  | read | readOne =>
    rcases p with ⟨⟨ring, writer, reader⟩⟩
    cases reader <;>
      exact ⟨rfl, Nat.le_refl _, Nat.le_refl _, fun idle _ => ⟨idle, rfl⟩,
        fun _ own => absurd rfl own⟩

/-! ## Queries under way -/

/-- What an asker knows that has seen a count of the writer and makes no call. -/
def Asker.Knows (t : Traffic α) (seen : Nat) : Asker → Prop
  | .writer => t.isBusy .writer = false ∧ seen = t.ring.written
  | .reader => t.isBusy .reader = false ∧ seen ≤ t.ring.written
  | .other _ => seen ≤ t.ring.written

theorem Asker.Knows.le {t : Traffic α} {seen : Nat} {asker : Asker} (h : asker.Knows t seen) :
    seen ≤ t.ring.written := by
  cases asker with
  | writer => exact Nat.le_of_eq h.2
  | reader => exact h.2
  | other number => exact h

theorem Asker.Knows.onward {t next : Traffic α} {caller? : Option Asker} {seen : Nat}
    {asker : Asker} (h : asker.Knows t seen) (on : t.Onward caller? next)
    (other : caller? ≠ some asker) : asker.Knows next seen := by
  cases asker with
  | writer =>
    obtain ⟨idle, still⟩ := on.writer h.1 other
    exact ⟨idle, h.2.trans still.symm⟩
  | reader => exact ⟨(on.reader h.1 other).1, Nat.le_trans h.2 on.written⟩
  | other number => exact Nat.le_trans h on.written

theorem Asker.knows_now {t : Traffic α} {asker : Asker} (idle : t.isBusy asker = false) :
    asker.Knows t t.ring.written := by
  cases asker with
  | writer => exact ⟨idle, rfl⟩
  | reader => exact ⟨idle, Nat.le_refl _⟩
  | other number => exact Nat.le_refl _

namespace Gauge

/-- The traffic keeps the order of a ring, and whoever is in the middle of asking knows what it has
seen. -/
structure Sound (g : Gauge α) : Prop where
  passage : ∃ p : Passage α, p.traffic = g.traffic ∧ p.Consistent
  knows : ∀ asker seen, g.seen asker = some seen → asker.Knows g.traffic seen

variable {g : Gauge α}

theorem sound_empty {capacity : Nat} (positive : 0 < capacity) :
    Sound (α := α) { traffic := { ring := .empty capacity } } :=
  ⟨⟨_, rfl, Passage.consistent_empty positive⟩, nofun⟩

theorem Sound.valid (h : g.Sound) : g.traffic.ring.Valid := by
  obtain ⟨p, same, consistent⟩ := h.passage
  exact same ▸ consistent.valid

theorem Sound.level_eq (h : g.Sound) :
    g.level = g.traffic.ring.written - g.traffic.ring.consumed := by
  rw [level, h.valid.length_contents, h.valid.readable_eq]

/-- A look changes nothing of the traffic, nor does a call of a side that is asking. -/
theorem step_traffic (g : Gauge α) (event : GaugeEvent α) :
    (g.step event).1.traffic = g.traffic ∨ ∃ move, event = .traffic move ∧
      (g.step event).1 = { g with traffic := (g.traffic.step move).1 } ∧
      ∀ asker seen, g.seen asker = some seen → move.caller? ≠ some asker := by
  cases event with
  | traffic move =>
    simp only [step]
    split
    · exact .inl rfl
    · rename_i free
      refine .inr ⟨move, rfl, rfl, fun asker seen pending own => free ?_⟩
      rw [own, Option.bind_some, pending]
      rfl
  | ask asker =>
    simp only [step]
    split
    · exact .inl rfl
    · split <;> exact .inl rfl

theorem Sound.onward (h : g.Sound) (event : GaugeEvent α) :
    g.traffic.Onward event.caller? (g.step event).1.traffic := by
  obtain still | ⟨move, rfl, moved, -⟩ := g.step_traffic event
  · rw [still]
    exact .refl _ _
  · obtain ⟨p, same, consistent⟩ := h.passage
    rw [moved]
    exact same ▸ consistent.onward move

/-- A look leaves the asker with what it has seen, or with nothing. -/
theorem seen_ask (g : Gauge α) (asker : Asker) {who : Asker} {seen : Nat}
    (pending : (g.step (.ask asker)).1.seen who = some seen) :
    g.seen who = some seen ∨
      who = asker ∧ g.traffic.isBusy asker = false ∧ seen = g.traffic.ring.written := by
  simp only [step] at pending
  split at pending
  · exact .inl pending
  · rename_i idle
    by_cases own : who = asker
    · subst own
      split at pending
      · simp only [note, if_true, Option.some.injEq] at pending
        exact .inr ⟨rfl, by simpa using idle, pending.symm⟩
      · simp [note] at pending
    · split at pending <;> exact .inl (by simpa [note, own] using pending)

theorem Sound.step (h : g.Sound) (event : GaugeEvent α) : (g.step event).1.Sound := by
  have on := h.onward event
  obtain still | ⟨move, rfl, moved, free⟩ := g.step_traffic event
  · refine ⟨still ▸ h.passage, fun who seen pending => ?_⟩
    rw [still]
    cases event with
    | ask asker =>
      obtain old | ⟨rfl, idle, rfl⟩ := g.seen_ask asker pending
      · exact h.knows who seen old
      · exact Asker.knows_now idle
    | traffic move =>
      refine h.knows who seen ?_
      simp only [Gauge.step] at pending
      split at pending <;> exact pending
  · obtain ⟨p, same, consistent⟩ := h.passage
    rw [moved] at on ⊢
    refine ⟨⟨p.step move, ?_, consistent.step move⟩, fun who seen pending => ?_⟩
    · show (p.traffic.step move).1 = _
      rw [same]
    · exact (h.knows who seen pending).onward on (free who seen pending)

theorem Sound.run (h : g.Sound) (events : List (GaugeEvent α)) : (g.run events).Sound := by
  induction events generalizing g with
  | nil => exact h
  | cons event events ih => exact ih (h.step event)

/-! ## Until the next call -/

/-- Without a call of the writer the level only falls. -/
theorem Sound.run_of_writer (h : g.Sound) (idle : g.traffic.isBusy .writer = false)
    (later : List (GaugeEvent α)) (waits : ∀ event ∈ later, event.caller? ≠ some .writer) :
    (g.run later).level ≤ g.level := by
  induction later generalizing g with
  | nil => exact Nat.le_refl _
  | cons event later ih =>
    obtain ⟨here, rest⟩ := List.forall_mem_cons.1 waits
    have on := h.onward event
    obtain ⟨outside, written⟩ := on.writer idle here
    have falls : (g.step event).1.level ≤ g.level := by
      rw [(h.step event).level_eq, h.level_eq, written]
      exact Nat.sub_le_sub_left on.consumed _
    exact Nat.le_trans (ih (h.step event) outside rest) falls

/-- Without a call of the reader it only rises. -/
theorem Sound.run_of_reader (h : g.Sound) (idle : g.traffic.isBusy .reader = false)
    (later : List (GaugeEvent α)) (waits : ∀ event ∈ later, event.caller? ≠ some .reader) :
    g.level ≤ (g.run later).level := by
  induction later generalizing g with
  | nil => exact Nat.le_refl _
  | cons event later ih =>
    obtain ⟨here, rest⟩ := List.forall_mem_cons.1 waits
    have on := h.onward event
    obtain ⟨outside, consumed⟩ := on.reader idle here
    have rises : g.level ≤ (g.step event).1.level := by
      rw [(h.step event).level_eq, h.level_eq, consumed]
      exact Nat.sub_le_sub_right on.written _
    exact Nat.le_trans rises (ih (h.step event) outside rest)

theorem Sound.run_capacity (h : g.Sound) (events : List (GaugeEvent α)) :
    (g.run events).traffic.ring.capacity = g.traffic.ring.capacity := by
  induction events generalizing g with
  | nil => rfl
  | cons event events ih => exact (ih (h.step event)).trans (h.onward event).capacity

/-! ## What a query tells -/

/-- A query ends with the span between what it has seen and the count of the reader. -/
theorem tells_eq {asker : Asker} {told : Nat} (tells : (g.step (.ask asker)).2 = some told) :
    g.traffic.isBusy asker = false ∧ (g.step (.ask asker)).1.traffic = g.traffic ∧
      ∃ seen, g.seen asker = some seen ∧
        told = g.traffic.ring.span seen g.traffic.ring.consumed := by
  simp only [step] at tells ⊢
  split at tells
  · cases tells
  · rename_i idle
    rw [if_neg idle]
    cases pending : g.seen asker with
    | none => rw [pending] at tells; cases tells
    | some seen =>
      rw [pending] at tells
      exact ⟨by simpa using idle, rfl, seen, rfl, (Option.some.inj tells).symm⟩

theorem Sound.told_le (h : g.Sound) {asker : Asker} {told : Nat}
    (tells : (g.step (.ask asker)).2 = some told) :
    told ≤ g.traffic.ring.capacity ∧ told ≤ g.level := by
  obtain ⟨-, -, seen, pending, rfl⟩ := tells_eq tells
  have behind := (h.knows asker seen pending).le
  rw [h.level_eq]
  unfold Ring.span
  omega

/-- The writer is told the level itself. -/
theorem Sound.told_writer (h : g.Sound) {told : Nat}
    (tells : (g.step (.ask .writer)).2 = some told) : told = g.level := by
  obtain ⟨-, -, seen, pending, rfl⟩ := tells_eq tells
  obtain ⟨-, rfl⟩ : Asker.Knows g.traffic seen .writer := h.knows .writer seen pending
  rw [level, h.valid.length_contents, Ring.readable]

/-- **Safe levels**: whatever comes between the two looks of a query, it tells no more than the
capacity and no more than there is to read at its second look. The writer is told exactly how much
it may write at that moment, and may write as much at any later one before its next call; the
reader may read as much as it is told at any later moment before its next call. -/
theorem safe_levels {capacity : Nat} (positive : 0 < capacity) (events : List (GaugeEvent α))
    (asker : Asker) (told : Nat) :
    let g := Gauge.run { traffic := { ring := .empty capacity } } events
    let after := (g.step (.ask asker)).1
    (g.step (.ask asker)).2 = some told →
      (told ≤ capacity ∧ told ≤ g.level) ∧
      (asker = .writer →
        capacity - told = capacity - g.level ∧
        ∀ later : List (GaugeEvent α), (∀ event ∈ later, event.caller? ≠ some .writer) →
          capacity - told ≤ capacity - (after.run later).level) ∧
      (asker = .reader →
        ∀ later : List (GaugeEvent α), (∀ event ∈ later, event.caller? ≠ some .reader) →
          told ≤ (after.run later).level) := by
  intro g after tells
  have start : Sound (α := α) { traffic := { ring := .empty capacity } } := sound_empty positive
  have sound : g.Sound := start.run events
  have size : g.traffic.ring.capacity = capacity := start.run_capacity events
  obtain ⟨idle, still, -⟩ := tells_eq tells
  have same : after.level = g.level := by rw [level, still, ← level]
  obtain ⟨most, known⟩ := sound.told_le tells
  refine ⟨⟨size ▸ most, known⟩, ?_, ?_⟩
  · rintro rfl
    have level : told = g.level := sound.told_writer tells
    refine ⟨by rw [level], fun later waits => ?_⟩
    have falls := (sound.step (.ask .writer)).run_of_writer (still ▸ idle) later waits
    exact Nat.sub_le_sub_left (level ▸ same ▸ falls) capacity
  · rintro rfl later waits
    have rises := (sound.step (.ask .reader)).run_of_reader (still ▸ idle) later waits
    exact Nat.le_trans known (same ▸ rises)

/-- The writer looks at both counts, and between its looks a read gives a slot back. -/
def crossing : List (GaugeEvent Nat) :=
  let write items := .traffic (.write items) :: List.replicate 5 (.traffic .writer)
  write [1, 2] ++ [.traffic (.read 1), .ask .writer] ++ List.replicate 4 (.traffic .reader)

theorem safe_levels_crossing :
    let g := Gauge.run { traffic := { ring := .empty 3 } } crossing
    let after := (g.step (.ask .writer)).1
    let later : List (GaugeEvent Nat) := .traffic .readOne :: List.replicate 4 (.traffic .reader)
    0 < 3 ∧ g.level = 1 ∧ (after.run later).level = 0 ∧
      (g.step (.ask .writer)).2 = some 1 ∧ 3 - 1 = 3 - g.level ∧
      3 - 1 ≤ 3 - (after.run later).level ∧ 1 ≤ g.level := by
  intro g after later
  obtain ⟨⟨-, known⟩, writer, -⟩ :=
    safe_levels (show 0 < 3 by decide) crossing .writer 1 (by decide)
  obtain ⟨now, ever⟩ := writer rfl
  exact ⟨by decide, by decide, by decide, by decide, now, ever later (by decide), known⟩

end Gauge

end AudioCapture
