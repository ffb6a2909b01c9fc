import AudioCapture.Proofs.Ring.Contents

/-!
# Rings are bounded queues

A ring answers every sequence of calls as a bounded list does (`serve_eq_fifo`): a write appends
what there is room for, a read takes off the front, and nothing is lost, repeated or reordered in
between. `Tracks` is the invariant: it links the slots and the two counts of a ring to the list
and to all that has gone in and come out.
-/

namespace AudioCapture

/-- A call from one of the two ends. -/
inductive RingCall (α : Type) where
  | write (items : List α)
  | writeOne (item : α)
  | read (most : Nat)
  | readOne
  deriving DecidableEq, Repr

inductive RingReply (α : Type) where
  /-- How many elements were accepted. -/
  | accepted (count : Nat)
  /-- Whether the element was accepted. -/
  | fitted (fits : Bool)
  | delivered (items : List α)
  | taken (item : Option α)
  deriving DecidableEq, Repr

variable {α σ : Type}

/-- The elements that a call has handed over, by its reply. -/
def RingCall.accepted : RingCall α → RingReply α → List α
  | .write items, .accepted count => items.take count
  | .writeOne item, .fitted true => [item]
  | _, _ => []

/-- The elements that a call has got. -/
def RingReply.got : RingReply α → List α
  | .delivered items => items
  | .taken item => item.toList
  | _ => []

/-- All elements that were accepted in an exchange of calls and replies. -/
def acceptedIn (exchange : List (RingCall α × RingReply α)) : List α :=
  exchange.flatMap fun (call, reply) => call.accepted reply

def gotIn (exchange : List (RingCall α × RingReply α)) : List α :=
  exchange.flatMap fun (_, reply) => reply.got

/-- Answers calls one after the other; also the calls with their replies. -/
def serve (answer : σ → RingCall α → σ × RingReply α) :
    σ → List (RingCall α) → σ × List (RingCall α × RingReply α)
  | s, [] => (s, [])
  | s, call :: calls =>
      let (next, reply) := answer s call
      let (last, rest) := serve answer next calls
      (last, (call, reply) :: rest)

/-! ## The bounded queue -/

structure Fifo (α : Type) where
  capacity : Nat
  /-- The unread elements, the oldest first. -/
  unread : List α := []

namespace Fifo

def room (q : Fifo α) : Nat := q.capacity - q.unread.length

def call (q : Fifo α) : RingCall α → Fifo α × RingReply α
  | .write items =>
      ({ q with unread := q.unread ++ items.take q.room }, .accepted (min items.length q.room))
  | .writeOne item =>
      ({ q with unread := q.unread ++ [item].take q.room }, .fitted (decide (0 < q.room)))
  | .read most => ({ q with unread := q.unread.drop most }, .delivered (q.unread.take most))
  | .readOne => ({ q with unread := q.unread.tail }, .taken q.unread.head?)

end Fifo

namespace Ring

def call (r : Ring α) : RingCall α → Ring α × RingReply α
  | .write items =>
      let (next, count) := r.write items
      (next, .accepted count)
  | .writeOne item =>
      let (next, fits) := r.writeOne item
      (next, .fitted fits)
  | .read most =>
      let (next, items) := r.read most
      (next, .delivered items)
  | .readOne =>
      let (next, item) := r.readOne
      (next, .taken item)

/-! ## The invariant -/

/-- A ring holds what a queue holds, after `given` has gone in and `got` has come out. -/
structure Tracks (r : Ring α) (q : Fifo α) (given got : List α) : Prop where
  valid : r.Valid
  capacity : r.capacity = q.capacity
  contents : r.contents = q.unread
  conserved : got ++ q.unread = given
  written : r.written = given.length
  consumed : r.consumed = got.length

theorem tracks_empty {capacity : Nat} (positive : 0 < capacity) :
    (empty capacity : Ring α).Tracks { capacity } [] [] :=
  ⟨valid_empty positive, rfl, contents_empty capacity, rfl, rfl, rfl⟩

variable {r : Ring α} {q : Fifo α} {given got : List α}

theorem Tracks.free (h : r.Tracks q given got) : r.free = q.room := by
  rw [h.valid.free_eq, h.contents, h.capacity]
  rfl

/-- Every write, of one element or of many, hands over the first of its items. -/
theorem Tracks.write (h : r.Tracks q given got) (items : List α) :
    (r.write items).1.Tracks { q with unread := q.unread ++ items.take q.room }
      (given ++ items.take q.room) got where
  valid := h.valid.write items
  capacity := h.capacity
  contents := by rw [h.valid.contents_write, h.contents, h.free]
  conserved := by rw [← List.append_assoc, h.conserved]
  written := by
    have count := write_snd r items
    show r.written + (r.write items).2 = _
    rw [count, h.written, List.length_append, List.length_take, h.free, Nat.min_comm]
  consumed := h.consumed

theorem Tracks.read (h : r.Tracks q given got) (most : Nat) :
    (r.read most).1.Tracks { q with unread := q.unread.drop most } given
      (got ++ q.unread.take most) where
  valid := h.valid.read most
  capacity := h.capacity
  contents := by rw [h.valid.contents_read, h.contents]
  conserved := by rw [List.append_assoc, List.take_append_drop, h.conserved]
  written := h.written
  consumed := by
    show r.consumed + min r.readable most = _
    rw [h.consumed, List.length_append, List.length_take, ← h.contents,
      h.valid.length_contents, Nat.min_comm]

/-- One call: the same reply, and the invariant again. -/
theorem Tracks.call (h : r.Tracks q given got) (call : RingCall α) :
    (r.call call).2 = (q.call call).2 ∧
      (r.call call).1.Tracks (q.call call).1 (given ++ call.accepted (q.call call).2)
        (got ++ (q.call call).2.got) := by
  cases call with
  | write items =>
    refine ⟨?_, ?_⟩
    · show RingReply.accepted (r.write items).2 = _
      rw [write_snd, h.free]
      rfl
    · have next := h.write items
      have prefixes : items.take (min items.length q.room) = items.take q.room := by
        rw [Nat.min_comm, ← List.take_eq_take_min]
      show (r.write items).1.Tracks _ _ _
      simpa only [Fifo.call, RingCall.accepted, RingReply.got, List.append_nil, prefixes] using next
  | writeOne item =>
    have next := h.write [item]
    have reply : (r.writeOne item).2 = decide (0 < q.room) := by rw [writeOne_snd, h.free]
    refine ⟨congrArg RingReply.fitted reply, ?_⟩
    have handed : RingCall.accepted (.writeOne item) (.fitted (decide (0 < q.room))) =
        [item].take q.room := by
      cases q.room <;> simp [RingCall.accepted]
    show (r.write [item]).1.Tracks _ _ _
    simpa only [Fifo.call, handed, RingReply.got, List.append_nil] using next
  | read most =>
    refine ⟨?_, ?_⟩
    · show RingReply.delivered (r.read most).2 = _
      rw [h.valid.read_snd_eq_take, h.contents]
      rfl
    · show (r.read most).1.Tracks _ _ _
      simpa only [Fifo.call, RingCall.accepted, RingReply.got, List.append_nil] using h.read most
  | readOne =>
    have reply : r.readOne.2 = q.unread.head? := by rw [h.valid.readOne_snd, h.contents]
    refine ⟨congrArg RingReply.taken reply, ?_⟩
    have next := h.read 1
    rw [List.drop_one, List.take_one] at next
    have same : (r.call .readOne).1 = (r.read 1).1 := by
      show r.readOne.1 = _
      rw [h.valid.readOne_eq_read]
    rw [same]
    simpa only [Fifo.call, RingCall.accepted, RingReply.got, List.append_nil] using next

/-- A whole sequence of calls. -/
theorem Tracks.serve (h : r.Tracks q given got) (calls : List (RingCall α)) :
    (serve Ring.call r calls).2 = (serve Fifo.call q calls).2 ∧
      (serve Ring.call r calls).1.Tracks (serve Fifo.call q calls).1
        (given ++ acceptedIn (serve Ring.call r calls).2)
        (got ++ gotIn (serve Ring.call r calls).2) := by
  induction calls generalizing r q given got with
  | nil => exact ⟨rfl, by simpa [acceptedIn, gotIn, AudioCapture.serve] using h⟩
  | cons call calls ih =>
    -- both sides give the same reply, so the rest starts from what was handed over alike
    obtain ⟨reply, next⟩ := h.call call
    obtain ⟨replies, last⟩ := ih next
    rw [← reply] at last
    refine ⟨?_, ?_⟩
    · simp only [AudioCapture.serve, reply, replies]
    · simpa only [AudioCapture.serve, acceptedIn, gotIn, List.flatMap_cons, List.append_assoc]
        using last

/-! ## The refinement -/

/-- **Refinement**: an empty ring of any capacity answers every sequence of calls as the bounded
queue does, and holds the same. What was got and what is still unread make up what was accepted;
the fill levels are exact; the two counts are those of the elements accepted and got, at most a
capacity apart, so that neither the bound on their difference nor the one by the capacity ever
comes into play. -/
theorem serve_eq_fifo {capacity : Nat} (positive : 0 < capacity) (calls : List (RingCall α)) :
    let r := (serve Ring.call (empty capacity) calls).1
    let exchange := (serve Ring.call (empty capacity) calls).2
    let q := (serve Fifo.call ({ capacity } : Fifo α) calls).1
    (exchange = (serve Fifo.call { capacity } calls).2 ∧ r.contents = q.unread ∧
        q.capacity = capacity) ∧
      gotIn exchange ++ r.contents = acceptedIn exchange ∧
      (r.readable = r.contents.length ∧ r.readable + r.free = capacity) ∧
      (r.consumed ≤ r.written ∧ r.written ≤ r.consumed + capacity ∧
        r.span r.written r.consumed = r.written - r.consumed) ∧
      r.written = (acceptedIn exchange).length ∧ r.consumed = (gotIn exchange).length := by
  intro r exchange q
  obtain ⟨replies, last⟩ := (tracks_empty (α := α) positive).serve calls
  have kept : ∀ (calls : List (RingCall α)) (q : Fifo α),
      (serve Fifo.call q calls).1.capacity = q.capacity := by
    intro calls
    induction calls with
    | nil => exact fun _ => rfl
    | cons call calls ih => exact fun q => (ih (q.call call).1).trans (by cases call <;> rfl)
  have size : q.capacity = capacity := kept calls { capacity }
  have whole : r.capacity = capacity := last.capacity.trans size
  have bounded := last.valid.written_le
  refine ⟨⟨replies, last.contents, size⟩, ?_, ⟨last.valid.length_contents.symm, ?_⟩,
    ⟨last.valid.consumed_le, ?_, last.valid.readable_eq⟩, last.written, last.consumed⟩
  · have conserved := last.conserved
    rw [← last.contents] at conserved
    exact conserved
  · rw [readable_add_free, whole]
  · rw [← whole]
    exact bounded

/-- A ring of three slots, written to across the end of its slots. -/
theorem serve_three :
    0 < 3 ∧ (serve Ring.call (empty 3)
        [.write [1, 2], .readOne, .write [3, 4, 5], .writeOne 6, .read 2, .readOne, .readOne]).2 =
      [(.write [1, 2], .accepted 2), (.readOne, .taken (some 1)),
        (.write [3, 4, 5], .accepted 2), (.writeOne 6, .fitted false),
        (.read 2, .delivered [2, 3]), (.readOne, .taken (some 4)), (.readOne, .taken none)] :=
  ⟨by decide, (serve_eq_fifo (α := Nat) (by decide) _).1.1⟩

end Ring

end AudioCapture
