import AudioCapture.Ring.Traffic
import AudioCapture.Proofs.Ring.Contents

/-!
# Calls that overlap

A write and a read of one ring that are under way at the same time, each acting on what it has seen
of the other's count some steps ago. The writer stays off the slots of the unread elements, also of
those that are being copied out, and the reads deliver what the writes accepted, in order
(`Traffic.apart_in_order`). The invariant is `Passage.Consistent`.

* `Ring.Adds`, `Ring.Frees` — all that one side relies on about what the other does to the ring;
* `WriterStands.frees`, `ReaderStands.adds` — where a side stands is kept by what the other does;
* `Consistent.step` — the invariant.
-/

namespace AudioCapture

namespace Ring

variable {α : Type} {r next : Ring α}

/-! ## What a side may do to the ring -/

/-- What the writer may do: publish more elements, and store some. Those that are unread stay. -/
structure Adds (r next : Ring α) : Prop where
  capacity : next.capacity = r.capacity
  consumed : next.consumed = r.consumed
  written : r.written ≤ next.written
  kept : ∀ count, r.consumed ≤ count → count < r.written → next.load? count = r.load? count

/-- What the reader may do: give slots back. -/
structure Frees (r next : Ring α) : Prop where
  same : next = { r with consumed := next.consumed }
  forward : r.consumed ≤ next.consumed
  within : next.consumed ≤ r.written

theorem Adds.refl (r : Ring α) : r.Adds r := ⟨rfl, rfl, Nat.le_refl _, fun _ _ _ => rfl⟩

theorem Frees.refl (h : r.Valid) : r.Frees r := ⟨rfl, Nat.le_refl _, h.consumed_le⟩

/-- A store into the slot of a count that is not published and less than a lap ahead. -/
theorem adds_store {count : Nat} (ahead : r.written ≤ count)
    (fits : count < r.consumed + r.capacity) (item : α) : r.Adds (r.store count item) where
  capacity := rfl
  consumed := rfl
  written := Nat.le_refl _
  kept := fun i _ _ => load?_put_of_le r _ (by omega) (by omega) (by omega)

theorem Adds.elements (h : r.Adds next) {count number : Nat} (unread : r.consumed ≤ count)
    (stored : count + number ≤ r.written) : next.elements count number = r.elements count number :=
  gather_congr fun i below => h.kept (count + i) (by omega) (by omega)

/-- A writer that has yet to publish has not changed what there is to read. -/
theorem Adds.unpublished (h : r.Adds next) (same : next.written = r.written) (valid : r.Valid) :
    next.Valid ∧ next.contents = r.contents := by
  have ordered := valid.consumed_le
  refine ⟨⟨?_, ?_, ?_, ?_⟩, ?_⟩
  · rw [h.capacity]
    exact valid.capacity_pos
  · rw [h.consumed, same]
    exact ordered
  · rw [h.consumed, h.capacity, same]
    exact valid.written_le
  · intro count unread below
    rw [h.consumed] at unread
    rw [same] at below
    rw [h.kept count unread below]
    exact valid.stored count unread below
  · rw [contents, h.consumed, same]
    exact h.elements (Nat.le_refl _) (by omega)

theorem Frees.valid (h : r.Frees next) (valid : r.Valid) : next.Valid := by
  have forward := h.forward
  have bounded := valid.written_le
  rw [h.same]
  exact ⟨valid.capacity_pos, h.within, by show r.written ≤ next.consumed + r.capacity; omega,
    fun count unread below => valid.stored count (Nat.le_trans forward unread) below⟩

/-- Two counts less than a lap apart have slots of their own. -/
theorem index_ne {first second : Nat} (before : first < second)
    (within : second < first + r.capacity) : r.index first ≠ r.index second := by
  intro same
  have apart : r.offset first (r.index (first + (second - first))) = second - first :=
    offset_index (by omega)
  have here : r.offset first (r.index (first + 0)) = 0 := offset_index (by omega)
  rw [show first + (second - first) = second by omega, ← same] at apart
  rw [Nat.add_zero, apart] at here
  omega

/-- A store changes no slot but that of its count. -/
theorem index_eq_of_store {count place : Nat} (inside : place < r.capacity) (item : α)
    (changed : (r.store count item).slots.get place ≠ r.slots.get place) :
    r.index count = place := by
  have positive : 0 < r.capacity := Nat.lt_of_le_of_lt (Nat.zero_le place) inside
  have low := index_lt positive count
  refine Decidable.byContradiction fun elsewhere => changed ?_
  have offset : ¬ r.offset count place < 1 := by
    unfold Ring.offset
    split <;> omega
  unfold store
  rw [get_put r count _ positive inside, if_neg offset]

/-- The first of the unread elements. -/
theorem Valid.take_contents (h : r.Valid) (number : Nat) :
    r.contents.take number = r.elements r.consumed (min (r.written - r.consumed) number) := by
  rw [← h.read_snd_eq_take, read_snd, h.readable_eq]

end Ring

variable {α : Type}

/-! ## What goes through a ring -/

/-- What a write hands over with its reply, of the items it was called with. -/
def TrafficReply.accepts (reply : TrafficReply α) (items : List α) : List α :=
  match reply with
  | .accepted count => items.take count
  | _ => []

/-- What a read brings that comes to its end. -/
def TrafficReply.delivered? : TrafficReply α → Option (List α)
  | .delivered items => some items
  | _ => none

/-- Traffic beside a record of what has gone through the ring. -/
structure Passage (α : Type) where
  traffic : Traffic α
  /-- The items of the write under way. -/
  offered : List α := []
  /-- What the read under way has to deliver: the first of the elements that were unread when it
  looked how many there are. -/
  due : List α := []
  /-- What the writes that are over have accepted. -/
  accepted : List α := []
  /-- What the reads that are over have delivered, the oldest first. -/
  reads : List (List α) := []

namespace Passage

/-- What a reader has to deliver that takes its next step. -/
def dueNext (r : Ring α) (due : List α) : ReaderPoint α → List α
  | .called most => r.contents.take (most.getD 1)
  | _ => due

def step (p : Passage α) (event : TrafficEvent α) : Passage α where
  traffic := (p.traffic.step event).1
  offered :=
    match event, p.traffic.writer with
    | .write items, .outside => items
    | _, _ => p.offered
  due :=
    match event with
    | .reader => dueNext p.traffic.ring p.due p.traffic.reader
    | _ => p.due
  accepted := p.accepted ++ (p.traffic.step event).2.accepts p.offered
  reads := p.reads ++ (p.traffic.step event).2.delivered?.toList

def run (p : Passage α) (events : List (TrafficEvent α)) : Passage α := events.foldl step p

theorem run_traffic (p : Passage α) (events : List (TrafficEvent α)) :
    (p.run events).traffic = p.traffic.run events := by
  induction events generalizing p with
  | nil => rfl
  | cons event events ih => exact ih (p.step event)

theorem run_reads (p : Passage α) (events : List (TrafficEvent α)) :
    (p.run events).reads =
      p.reads ++ (p.traffic.replies events).filterMap TrafficReply.delivered? := by
  induction events generalizing p with
  | nil => exact (List.append_nil _).symm
  | cons event events ih =>
    show ((p.step event).run events).reads = _
    rw [ih, Traffic.replies]
    cases given : (p.traffic.step event).2.delivered? <;> simp [step, given]

/-! ## Where the two sides stand -/

/-- What a writer that stands there has seen and done. -/
def WriterStands (r : Ring α) (offered : List α) : WriterPoint α → Prop
  | .outside => True
  | .called items => items = offered
  | .looked items seen => items = offered ∧ seen ≤ r.consumed ∧ r.written ≤ seen + r.capacity
  | .copying next left count => ∃ done, done ++ left = offered.take count ∧
      count = (done ++ left).length ∧ next = r.written + done.length ∧
      r.written + count ≤ r.consumed + r.capacity ∧
      ∀ i < done.length, r.load? (r.written + i) = done[i]?

/-- What a reader that stands there has seen and done. -/
def ReaderStands (r : Ring α) (due : List α) : ReaderPoint α → Prop
  | .outside => True
  | .called _ => True
  | .looked most seen => r.consumed ≤ seen ∧ seen ≤ r.written ∧
      due = r.elements r.consumed (min (seen - r.consumed) (most.getD 1))
  | .copying next left taken => next = r.consumed + taken.length ∧ next + left ≤ r.written ∧
      taken = r.elements r.consumed taken.length ∧
      due = r.elements r.consumed (taken.length + left)

/-- Both sides stand where what they have seen and done entitles them to, and the elements that
were delivered are followed by those that are unread. -/
structure Consistent (p : Passage α) : Prop where
  valid : p.traffic.ring.Valid
  writer : WriterStands p.traffic.ring p.offered p.traffic.writer
  reader : ReaderStands p.traffic.ring p.due p.traffic.reader
  stream : p.reads.flatten ++ p.traffic.ring.contents = p.accepted

variable {r next : Ring α} {offered due : List α}

/-! ### What the other side does -/

theorem WriterStands.frees {point : WriterPoint α} (h : WriterStands r offered point)
    (frees : r.Frees next) : WriterStands next offered point := by
  have forward := frees.forward
  rw [frees.same]
  cases point with
  | outside => trivial
  | called items => exact h
  | looked items seen => exact ⟨h.1, Nat.le_trans h.2.1 forward, h.2.2⟩
  | copying count left number =>
    obtain ⟨done, all, length, reached, fits, stored⟩ := h
    refine ⟨done, all, length, reached, ?_, stored⟩
    show r.written + number ≤ next.consumed + r.capacity
    omega

theorem ReaderStands.adds {point : ReaderPoint α} (h : ReaderStands r due point)
    (adds : r.Adds next) : ReaderStands next due point := by
  have more := adds.written
  cases point with
  | outside => trivial
  | called most => trivial
  | looked most seen =>
    obtain ⟨unread, published, all⟩ := h
    refine ⟨by rw [adds.consumed]; exact unread, Nat.le_trans published more, ?_⟩
    rw [adds.consumed, adds.elements (Nat.le_refl _) (by omega)]
    exact all
  | copying count left taken =>
    obtain ⟨reached, published, copied, all⟩ := h
    refine ⟨by rw [adds.consumed]; exact reached, Nat.le_trans published more, ?_, ?_⟩
    · rw [adds.consumed, adds.elements (Nat.le_refl _) (by omega)]
      exact copied
    · rw [adds.consumed, adds.elements (Nat.le_refl _) (by omega)]
      exact all

/-! ### What a step does -/

/-- What a step of the writer does. -/
structure Writes (t : Traffic α) (offered : List α) (done : Traffic α × TrafficReply α) : Prop where
  adds : t.ring.Adds done.1.ring
  valid : done.1.ring.Valid
  writer : WriterStands done.1.ring offered done.1.writer
  reader : done.1.reader = t.reader
  contents : done.1.ring.contents = t.ring.contents ++ done.2.accepts offered
  silent : done.2.delivered? = none

/-- What a step of the reader does; `due` is what it has to deliver after it. -/
structure Takes (t : Traffic α) (due : List α) (done : Traffic α × TrafficReply α) : Prop where
  frees : t.ring.Frees done.1.ring
  reader : ReaderStands done.1.ring due done.1.reader
  writer : done.1.writer = t.writer
  contents : done.2.delivered?.getD [] ++ done.1.ring.contents = t.ring.contents
  delivered : ∀ items, done.2 = .delivered items → items = due
  silent : ∀ offered, done.2.accepts offered = []

variable {writer : WriterPoint α} {reader : ReaderPoint α}

/-- A step of the writer that leaves the ring alone and ends no call. -/
theorem Writes.still (valid : r.Valid) {point : WriterPoint α}
    (stands : WriterStands r offered point) :
    Writes ⟨r, writer, reader⟩ offered (⟨r, point, reader⟩, .nothing) :=
  ⟨.refl r, valid, stands, rfl, (List.append_nil _).symm, rfl⟩

/-- The writer copies its next element. -/
theorem WriterStands.store (valid : r.Valid) {next count : Nat} {item : α} {left : List α}
    (h : WriterStands r offered (.copying next (item :: left) count)) :
    r.Adds (r.store next item) ∧
      WriterStands (r.store next item) offered (.copying (next + 1) left count) := by
  obtain ⟨done, all, length, rfl, fits, stored⟩ := h
  have ordered := valid.consumed_le
  rw [List.length_append, List.length_cons] at length
  have copied : (done ++ [item]).length = done.length + 1 := List.length_append
  refine ⟨Ring.adds_store (by omega) (by omega) item, done ++ [item], ?_, ?_, ?_, fits, ?_⟩
  · rw [List.append_assoc]
    exact all
  · rw [List.length_append, copied, length]
    omega
  · rw [copied]
    rfl
  · intro i below
    rw [copied] at below
    show (r.store (r.written + done.length) item).load? (r.written + i) = _
    rcases Nat.lt_or_ge i done.length with old | new
    · rw [List.getElem?_append_left old, ← stored i old]
      exact Ring.load?_put_of_le r _ (by omega) (by omega) (by omega)
    · obtain rfl : i = done.length := by omega
      rw [List.getElem?_concat_length]
      exact Ring.load?_put_of_lt r (r.written + done.length) (i := 0) _ (by omega) Nat.one_pos

/-- The writer publishes what it has copied. -/
theorem WriterStands.publish (valid : r.Valid) {next count : Nat}
    (h : WriterStands r offered (.copying next [] count)) :
    r.Adds { r with written := next } ∧ ({ r with written := next } : Ring α).Valid ∧
      ({ r with written := next } : Ring α).contents = r.contents ++ offered.take count := by
  obtain ⟨done, all, length, rfl, fits, stored⟩ := h
  have ordered := valid.consumed_le
  rw [List.append_nil] at all length
  refine ⟨⟨rfl, rfl, Nat.le_add_right _ _, fun _ _ _ => rfl⟩,
    ⟨valid.capacity_pos, Nat.le_trans ordered (Nat.le_add_right _ _), ?_, ?_⟩, ?_⟩
  · show r.written + done.length ≤ r.consumed + r.capacity
    omega
  · intro i unread below
    rcases Nat.lt_or_ge i r.written with old | new
    · exact valid.stored i unread old
    · change i < r.written + done.length at below
      have here := stored (i - r.written) (by omega)
      rw [show r.written + (i - r.written) = i by omega] at here
      show (r.load? i).isSome = true
      rw [here, List.getElem?_eq_getElem (by omega)]
      rfl
  · -- cut at the old end: behind it is what was copied
    have fresh : r.elements r.written done.length = done := by
      rw [Ring.elements, Ring.gather_congr stored, Ring.gather_getElem?, List.take_length]
    show r.elements r.consumed (r.written + done.length - r.consumed) = _
    rw [show r.written + done.length - r.consumed = (r.written - r.consumed) + done.length by omega,
      Ring.elements_add, show r.consumed + (r.written - r.consumed) = r.written by omega, fresh,
      all]
    rfl

theorem WriterStands.writes (valid : r.Valid) (h : WriterStands r offered writer) :
    Writes ⟨r, writer, reader⟩ offered (Traffic.stepWriter ⟨r, writer, reader⟩) := by
  have ordered := valid.consumed_le
  cases writer with
  | outside => exact .still valid trivial
  | called items => exact .still valid ⟨h, Nat.le_refl _, valid.written_le⟩
  | looked items seen =>
    obtain ⟨rfl, old, bounded⟩ := h
    -- what has been given back since the look is room that the call does not use
    have span : r.span r.written seen = r.written - seen := by
      unfold Ring.span
      omega
    simp only [Traffic.stepWriter, span]
    split
    · exact ⟨.refl r, valid, trivial, rfl, by simp [TrafficReply.accepts], rfl⟩
    · refine .still valid ⟨[], ?_, rfl, rfl, ?_, nofun⟩
      · rw [List.nil_append, List.length_take, ← List.take_eq_take_min]
      · rw [List.length_take]
        omega
  | copying next left count =>
    cases left with
    | nil =>
      obtain ⟨adds, published, contents⟩ := h.publish valid
      exact ⟨adds, published, trivial, rfl, contents, rfl⟩
    | cons item left =>
      obtain ⟨adds, stands⟩ := h.store valid
      obtain ⟨kept, contents⟩ := adds.unpublished rfl valid
      exact ⟨adds, kept, stands, rfl, contents.trans (List.append_nil _).symm, rfl⟩

theorem Takes.still (valid : r.Valid) {point : ReaderPoint α} (stands : ReaderStands r due point) :
    Takes ⟨r, writer, reader⟩ due (⟨r, writer, point⟩, .nothing) :=
  ⟨.refl valid, stands, rfl, rfl, nofun, fun _ => rfl⟩

/-- How many elements a read takes that has seen a count of written ones. -/
theorem readLength_eq {seen : Nat} (most : Option Nat) (within : seen ≤ r.consumed + r.capacity) :
    Traffic.readLength r most seen = min (seen - r.consumed) (most.getD 1) := by
  cases most with
  | none =>
    show (if seen ≤ r.consumed then 0 else 1) = min (seen - r.consumed) 1
    split <;> omega
  | some most =>
    show min (r.span seen r.consumed) most = min (seen - r.consumed) most
    unfold Ring.span
    omega

/-- The reader copies its next element. -/
theorem ReaderStands.copy (valid : r.Valid) {next left : Nat} {taken : List α}
    (h : ReaderStands r due (.copying next (left + 1) taken)) :
    ReaderStands r due (.copying (next + 1) left (taken ++ (r.load? next).toList)) := by
  obtain ⟨rfl, published, copied, all⟩ := h
  obtain ⟨item, here⟩ := Option.isSome_iff_exists.1
    (valid.stored (r.consumed + taken.length) (Nat.le_add_right _ _) (by omega))
  have more : (taken ++ [item]).length = taken.length + 1 := List.length_append
  rw [here, Option.toList_some]
  refine ⟨?_, by omega, ?_, ?_⟩
  · rw [more]
    rfl
  · rw [more, Ring.elements, Ring.gather_succ, here]
    exact congrArg (· ++ [item]) copied
  · rw [more, all]
    congr 1
    omega

theorem ReaderStands.takes (valid : r.Valid) (h : ReaderStands r due reader) :
    Takes ⟨r, writer, reader⟩ (dueNext r due reader)
      (Traffic.stepReader ⟨r, writer, reader⟩) := by
  have ordered := valid.consumed_le
  have bounded := valid.written_le
  cases reader with
  | outside => exact .still valid trivial
  | called most => exact .still valid ⟨ordered, Nat.le_refl _, valid.take_contents _⟩
  | looked most seen =>
    obtain ⟨unread, published, all⟩ := h
    have length : Traffic.readLength r most seen = min (seen - r.consumed) (most.getD 1) :=
      readLength_eq most (by omega)
    simp only [Traffic.stepReader]
    split
    · rename_i none
      refine ⟨.refl valid, trivial, rfl, rfl, ?_, fun _ => rfl⟩
      intro items ends
      cases ends
      rw [all, ← length, none]
      rfl
    · refine .still valid ⟨rfl, by rw [length]; omega, rfl, ?_⟩
      rw [length, List.length_nil, Nat.zero_add]
      exact all
  | copying next left taken =>
    cases left with
    | succ left => exact .still valid (h.copy valid)
    | zero =>
      -- what was copied goes off the front
      obtain ⟨rfl, published, copied, all⟩ := h
      refine ⟨⟨rfl, Nat.le_add_right _ _, published⟩, trivial, rfl, ?_, ?_, fun _ => rfl⟩
      · show taken ++ r.elements (r.consumed + taken.length)
          (r.written - (r.consumed + taken.length)) = r.elements r.consumed (r.written - r.consumed)
        rw [show r.written - r.consumed =
            taken.length + (r.written - (r.consumed + taken.length)) by omega, Ring.elements_add]
        exact congrArg (· ++ _) copied
      · intro items ends
        cases ends
        exact copied.trans all.symm

/-! ### The invariant -/

variable {p : Passage α}

theorem Consistent.writes (h : p.Consistent) :
    Writes p.traffic p.offered p.traffic.stepWriter := h.writer.writes h.valid

theorem Consistent.takes (h : p.Consistent) :
    Takes p.traffic (dueNext p.traffic.ring p.due p.traffic.reader) p.traffic.stepReader :=
  h.reader.takes h.valid

theorem Consistent.stepWriter (h : p.Consistent) : (p.step .writer).Consistent := by
  have done := h.writes
  refine ⟨done.valid, done.writer, ?_, ?_⟩
  · show ReaderStands _ _ p.traffic.stepWriter.1.reader
    rw [done.reader]
    exact h.reader.adds done.adds
  · show (p.reads ++ p.traffic.stepWriter.2.delivered?.toList).flatten ++
      p.traffic.stepWriter.1.ring.contents = p.accepted ++ p.traffic.stepWriter.2.accepts p.offered
    rw [done.silent, done.contents, Option.toList_none, List.append_nil, ← h.stream,
      List.append_assoc]

theorem Consistent.stepReader (h : p.Consistent) : (p.step .reader).Consistent := by
  have done := h.takes
  refine ⟨done.frees.valid h.valid, ?_, done.reader, ?_⟩
  · show WriterStands _ _ p.traffic.stepReader.1.writer
    rw [done.writer]
    exact h.writer.frees done.frees
  · show (p.reads ++ p.traffic.stepReader.2.delivered?.toList).flatten ++
      p.traffic.stepReader.1.ring.contents = p.accepted ++ p.traffic.stepReader.2.accepts p.offered
    rw [done.silent, List.append_nil, ← h.stream, ← done.contents, List.flatten_append,
      List.append_assoc]
    cases p.traffic.stepReader.2.delivered? <;> simp

theorem Consistent.step (h : p.Consistent) (event : TrafficEvent α) :
    (p.step event).Consistent := by
  -- a call changes nothing but where its side stands, and nothing at all inside of another
  have stream : (p.reads ++ []).flatten ++ p.traffic.ring.contents = p.accepted ++ [] := by
    rw [List.append_nil, List.append_nil]
    exact h.stream
  rcases p with ⟨⟨r, writer, reader⟩, offered, due, accepted, reads⟩
  cases event with
  | writer => exact h.stepWriter
  | reader => exact h.stepReader
  | write items =>
    cases writer with
    | outside => exact ⟨h.valid, rfl, h.reader, stream⟩
    | called | looked | copying => exact ⟨h.valid, h.writer, h.reader, stream⟩
  | read | readOne =>
    cases reader with
    | outside => exact ⟨h.valid, h.writer, trivial, stream⟩
    | called | looked | copying => exact ⟨h.valid, h.writer, h.reader, stream⟩

theorem Consistent.run (h : p.Consistent) (events : List (TrafficEvent α)) :
    (p.run events).Consistent := by
  induction events generalizing p with
  | nil => exact h
  | cons event events ih => exact ih (h.step event)

theorem consistent_empty {capacity : Nat} (positive : 0 < capacity) :
    Consistent (α := α) { traffic := { ring := .empty capacity } } :=
  ⟨Ring.valid_empty positive, trivial, trivial, rfl⟩

end Passage

/-! ## Slots -/

namespace Traffic

/-- The element with a count is published and has not been given back. -/
def Unread (t : Traffic α) (count : Nat) : Prop := t.ring.consumed ≤ count ∧ count < t.ring.written

/-- The write under way copies, or has copied, an element into the slot of a count. -/
def Fills (t : Traffic α) (count : Nat) : Prop :=
  match t.writer with
  | .copying next left _ => t.ring.written ≤ count ∧ count < next + left.length
  | _ => False

/-- The read under way copies, or has copied, the element with a count out of its slot. -/
def Empties (t : Traffic α) (count : Nat) : Prop :=
  match t.reader with
  | .copying next left _ => t.ring.consumed ≤ count ∧ count < next + left
  | _ => False

end Traffic

namespace Passage.Consistent

variable {p : Passage α}

theorem fills (h : p.Consistent) {count : Nat} (fills : p.traffic.Fills count) :
    p.traffic.ring.written ≤ count ∧
      count < p.traffic.ring.consumed + p.traffic.ring.capacity := by
  have stands := h.writer
  unfold Traffic.Fills at fills
  split at fills
  · rename_i next left number point
    rw [point] at stands
    obtain ⟨done, -, length, reached, fits, -⟩ := stands
    rw [List.length_append] at length
    omega
  · exact fills.elim

theorem empties (h : p.Consistent) {count : Nat} (empties : p.traffic.Empties count) :
    p.traffic.Unread count := by
  have stands := h.reader
  unfold Traffic.Empties at empties
  split at empties
  · rename_i next left taken point
    rw [point] at stands
    exact ⟨empties.1, Nat.lt_of_lt_of_le empties.2 stands.2.1⟩
  · exact empties.elim

/-- No step of either side changes an unread element. -/
theorem load?_step (h : p.Consistent) (event : TrafficEvent α) {count : Nat}
    (unread : p.traffic.Unread count) :
    (p.traffic.step event).1.ring.load? count = p.traffic.ring.load? count := by
  cases event with
  | writer => exact h.writes.adds.kept count unread.1 unread.2
  | reader =>
    show p.traffic.stepReader.1.ring.load? count = _
    rw [h.takes.frees.same]
    rfl
  | write items =>
    simp only [Traffic.step]
    split <;> rfl
  | read | readOne =>
    simp only [Traffic.step]
    split <;> rfl

/-- The only slots that a step changes are those that the write under way fills. -/
theorem fills_of_get_ne (h : p.Consistent) (event : TrafficEvent α) {place : Nat}
    (inside : place < p.traffic.ring.capacity)
    (changed : (p.traffic.step event).1.ring.slots.get place ≠ p.traffic.ring.slots.get place) :
    ∃ count, p.traffic.Fills count ∧ p.traffic.ring.index count = place := by
  have stands := h.writer
  cases event with
  | writer =>
    change p.traffic.stepWriter.1.ring.slots.get place ≠ _ at changed
    unfold Traffic.stepWriter at changed
    split at changed
    · exact absurd rfl changed
    · exact absurd rfl changed
    · dsimp only at changed
      split at changed <;> exact absurd rfl changed
    · exact absurd rfl changed
    · rename_i next item left number point
      rw [point] at stands
      obtain ⟨done, -, -, reached, -, -⟩ := stands
      refine ⟨next, ?_, ?_⟩
      · simp only [Traffic.Fills, point, List.length_cons]
        omega
      · exact Ring.index_eq_of_store inside item changed
  | reader =>
    change p.traffic.stepReader.1.ring.slots.get place ≠ _ at changed
    rw [h.takes.frees.same] at changed
    exact absurd rfl changed
  | write items =>
    simp only [Traffic.step] at changed
    split at changed <;> exact absurd rfl changed
  | read | readOne =>
    simp only [Traffic.step] at changed
    split at changed <;> exact absurd rfl changed

/-- A read ends with what was unread when it looked. -/
theorem delivered (h : p.Consistent) {event : TrafficEvent α} {items : List α}
    (ends : (p.traffic.step event).2 = .delivered items) : items = p.due := by
  cases event with
  | writer =>
    have silent := h.writes.silent
    rw [show p.traffic.stepWriter.2 = .delivered items from ends] at silent
    cases silent
  | reader =>
    have due := h.takes.delivered items ends
    cases point : p.traffic.reader with
    | called most =>
      simp only [Traffic.step, Traffic.stepReader, point] at ends
      cases ends
    | _ => rwa [point] at due
  | write | read | readOne =>
    simp only [Traffic.step] at ends
    split at ends <;> cases ends

end Passage.Consistent

/-! ## Both sides at once -/

/-- **Apart and in order**: however the steps of writes and reads fall between one another, the
slots that a write under way fills are none of those of the unread elements, which are also the
ones that a read under way empties; no step changes an unread element, nor any slot but those. A
read delivers what was unread when it looked, and all that was delivered, followed by what is
unread, is what was accepted. -/
theorem Traffic.apart_in_order {capacity : Nat} (positive : 0 < capacity)
    (events : List (TrafficEvent α)) :
    let t := Traffic.run { ring := .empty capacity } events
    let record := Passage.run { traffic := { ring := .empty capacity } } events
    ((∀ i j, t.Fills i → t.Unread j → t.ring.index i ≠ t.ring.index j) ∧
        ∀ j, t.Empties j → t.Unread j) ∧
      (∀ event, (∀ j, t.Unread j → (t.step event).1.ring.load? j = t.ring.load? j) ∧
        ∀ place < t.ring.capacity,
          (t.step event).1.ring.slots.get place ≠ t.ring.slots.get place →
            ∃ i, t.Fills i ∧ t.ring.index i = place) ∧
      (∀ event items, (t.step event).2 = .delivered items → items = record.due) ∧
      ((Traffic.replies { ring := .empty capacity } events).filterMap
        TrafficReply.delivered?).flatten ++ t.ring.contents = record.accepted := by
  intro t record
  have consistent : record.Consistent := (Passage.consistent_empty positive).run events
  have same : record.traffic = t := Passage.run_traffic _ events
  rw [← same]
  refine ⟨⟨?_, fun j empties => consistent.empties empties⟩, fun event =>
    ⟨fun j unread => consistent.load?_step event unread,
      fun place inside changed => consistent.fills_of_get_ne event inside changed⟩,
    fun event items ends => consistent.delivered ends, ?_⟩
  · intro i j fills unread
    obtain ⟨ahead, within⟩ := consistent.fills fills
    have behind : j < record.traffic.ring.written := unread.2
    have kept : record.traffic.ring.consumed ≤ j := unread.1
    exact (Ring.index_ne (show j < i by omega) (by omega)).symm
  · have stream := consistent.stream
    rw [Passage.run_reads, List.nil_append] at stream
    exact stream

/-- A write and a read of three slots, both in the middle of copying: the write fills the slot
between the two elements that the read empties, which have come round the end. -/
def Traffic.crossing : List (TrafficEvent Nat) :=
  let write items := .write items :: List.replicate 5 .writer
  let read most := .read most :: List.replicate 5 .reader
  write [1, 2] ++ read 2 ++ write [3, 4] ++
    [.read 2, .reader, .write [5, 6], .writer, .reader, .writer, .reader, .writer]

theorem Traffic.apart_in_order_crossing :
    let t := Traffic.run { ring := .empty 3 } Traffic.crossing
    0 < 3 ∧ t.Fills 4 ∧ t.Unread 3 ∧ t.Empties 3 ∧ t.ring.index 4 ≠ t.ring.index 3 ∧
      (t.step .reader).1.ring.load? 3 = some 4 := by
  intro t
  obtain ⟨⟨apart, empties⟩, steps, -, -⟩ :=
    Traffic.apart_in_order (show 0 < 3 by decide) Traffic.crossing
  have fills : t.Fills 4 := ⟨by decide, by decide⟩
  have emptied : t.Empties 3 := ⟨by decide, by decide⟩
  have unread : t.Unread 3 := empties 3 emptied
  exact ⟨by decide, fills, unread, emptied, apart 4 3 fills unread,
    ((steps .reader).1 3 unread).trans (by decide)⟩

end AudioCapture
