import AudioCapture.Proofs.Ring.Contents
import AudioCapture.Ring.Relay

/-!
# Streaming through a ring

A text that goes through a ring in pieces arrives whole and in order, whatever the capacity of the
ring, the sizes of the pieces and the order of the calls (`run_streams`). The invariant is
`Carries`: what has been received, what is in the ring and what is unsent make up the text.

* `Carries.call` — no call loses, repeats or reorders anything;
* `Carries.exists_moved_pos` — as long as something is left, one of the two sides can move some;
* `Carries.isDone_rounds` — so every schedule that gives both sides their turns comes to its end;
* `Carries.isDone_finish` — and so does the one that takes turns.
-/

namespace AudioCapture

namespace Relay

variable {α : Type} {r : Relay α} {input : List α}

/-- How many elements a call moves. -/
def moved (r : Relay α) : RelayCall → Nat
  | .send => (r.ring.write (r.unsent.take r.writePiece)).2
  | .receive => (r.ring.read r.readPiece).2.length

/-- How many elements have not been received. -/
def undelivered (r : Relay α) : Nat := r.ring.contents.length + r.unsent.length

/-- How many moves are left: every element is sent and received. -/
def movesLeft (r : Relay α) : Nat := r.unsent.length + r.undelivered

/-! ## The invariant -/

structure Carries (r : Relay α) (input : List α) : Prop where
  valid : r.ring.Valid
  writes : 0 < r.writePiece
  reads : 0 < r.readPiece
  whole : r.received.toList ++ r.ring.contents ++ r.unsent = input

theorem Carries.moved_send (h : r.Carries input) :
    r.moved .send = min (min r.writePiece r.unsent.length)
      (r.ring.capacity - r.ring.contents.length) := by
  rw [moved, Ring.write_snd, List.length_take, h.valid.free_eq]

theorem Carries.moved_receive (h : r.Carries input) :
    r.moved .receive = min r.ring.contents.length r.readPiece := by
  rw [moved, h.valid.length_read_snd, h.valid.length_contents]

/-- What a write accepts is what it takes off the unsent rest. -/
theorem Carries.contents_send (h : r.Carries input) :
    r.send.ring.contents = r.ring.contents ++ r.unsent.take (r.moved .send) := by
  have accepted : (r.unsent.take r.writePiece).take r.ring.free =
      r.unsent.take (r.moved .send) := by
    rw [h.moved_send, ← h.valid.free_eq, List.take_take, List.take_eq_take_iff]
    omega
  show (r.ring.write (r.unsent.take r.writePiece)).1.contents = _
  rw [h.valid.contents_write, accepted]

theorem Carries.send (h : r.Carries input) : r.send.Carries input where
  valid := h.valid.write _
  writes := h.writes
  reads := h.reads
  whole := by
    have rest : r.send.unsent = r.unsent.drop (r.moved .send) := rfl
    rw [h.contents_send, rest, List.append_assoc, List.append_assoc, List.take_append_drop,
      ← List.append_assoc]
    exact h.whole

theorem Carries.receive (h : r.Carries input) : r.receive.Carries input where
  valid := h.valid.read _
  writes := h.writes
  reads := h.reads
  whole := by
    have got : r.receive.received.toList =
        r.received.toList ++ (r.ring.read r.readPiece).2 := Array.toList_appendList
    have left : r.receive.ring.contents = (r.ring.read r.readPiece).1.contents := rfl
    rw [got, left, List.append_assoc r.received.toList, h.valid.read_append_contents]
    exact h.whole

theorem Carries.call (h : r.Carries input) (call : RelayCall) : (r.call call).Carries input := by
  cases call with
  | send => exact h.send
  | receive => exact h.receive

theorem Carries.run (h : r.Carries input) (calls : List RelayCall) :
    (r.run calls).Carries input := by
  induction calls generalizing r with
  | nil => exact h
  | cons call calls ih => exact ih (h.call call)

theorem carries_empty {capacity writePiece readPiece : Nat} (positive : 0 < capacity)
    (writes : 0 < writePiece) (reads : 0 < readPiece) (input : List α) :
    Carries { ring := .empty capacity, unsent := input, writePiece, readPiece } input :=
  ⟨Ring.valid_empty positive, writes, reads, rfl⟩

/-! ## What a call moves -/

/-- A write moves elements from the unsent rest into the ring, and a read moves some out of it. -/
theorem Carries.lengths_call (h : r.Carries input) (call : RelayCall) :
    match call with
    | .send => r.send.unsent.length + r.moved .send = r.unsent.length ∧
        r.send.ring.contents.length = r.ring.contents.length + r.moved .send
    | .receive => r.receive.unsent = r.unsent ∧
        r.receive.ring.contents.length + r.moved .receive = r.ring.contents.length := by
  cases call with
  | send =>
    have most : r.moved .send ≤ r.unsent.length := by
      rw [h.moved_send]
      omega
    have rest : r.send.unsent = r.unsent.drop (r.moved .send) := rfl
    refine ⟨?_, ?_⟩
    · rw [rest, List.length_drop]
      omega
    · rw [h.contents_send, List.length_append, List.length_take]
      omega
  | receive =>
    have left : r.receive.ring.contents = r.ring.contents.drop r.readPiece :=
      h.valid.contents_read r.readPiece
    refine ⟨rfl, ?_⟩
    rw [left, List.length_drop, h.moved_receive]
    omega

theorem Carries.unsent_call_le (h : r.Carries input) (call : RelayCall) :
    (r.call call).unsent.length ≤ r.unsent.length := by
  have lengths := h.lengths_call call
  cases call with
  | send => exact Nat.le_of_add_right_le (Nat.le_of_eq lengths.1)
  | receive => exact Nat.le_of_eq (congrArg List.length lengths.1)

theorem Carries.undelivered_call_le (h : r.Carries input) (call : RelayCall) :
    (r.call call).undelivered ≤ r.undelivered := by
  have lengths := h.lengths_call call
  cases call with
  | send =>
    obtain ⟨unsent, contents⟩ := lengths
    show r.send.ring.contents.length + r.send.unsent.length ≤ _
    unfold undelivered
    omega
  | receive =>
    obtain ⟨unsent, contents⟩ := lengths
    show r.receive.ring.contents.length + r.receive.unsent.length ≤ _
    rw [unsent]
    unfold undelivered
    omega

theorem Carries.movesLeft_call (h : r.Carries input) (call : RelayCall) :
    (r.call call).movesLeft + r.moved call = r.movesLeft := by
  have lengths := h.lengths_call call
  cases call with
  | send =>
    obtain ⟨unsent, contents⟩ := lengths
    show r.send.unsent.length + (r.send.ring.contents.length + r.send.unsent.length) + _ = _
    unfold movesLeft undelivered
    omega
  | receive =>
    obtain ⟨unsent, contents⟩ := lengths
    show r.receive.unsent.length + (r.receive.ring.contents.length + r.receive.unsent.length) + _ =
      _
    rw [unsent]
    unfold movesLeft undelivered
    omega

/-! ## Progress -/

theorem Carries.isDone_iff (h : r.Carries input) :
    r.isDone = true ↔ r.unsent = [] ∧ r.ring.contents = [] := by
  rw [isDone, Bool.and_eq_true, List.isEmpty_iff, beq_iff_eq, ← h.valid.length_contents,
    List.length_eq_zero_iff]

theorem Carries.isDone_iff_movesLeft (h : r.Carries input) :
    r.isDone = true ↔ r.movesLeft = 0 := by
  rw [h.isDone_iff, ← List.length_eq_zero_iff, ← List.length_eq_zero_iff]
  unfold movesLeft undelivered
  omega

theorem Carries.isDone_iff_received (h : r.Carries input) :
    r.isDone = true ↔ r.received.toList = input := by
  rw [h.isDone_iff]
  constructor
  · rintro ⟨unsent, contents⟩
    have whole := h.whole
    rwa [unsent, contents, List.append_nil, List.append_nil] at whole
  · intro received
    have length := congrArg List.length h.whole
    rw [← received, List.length_append, List.length_append] at length
    exact ⟨List.length_eq_zero_iff.1 (by omega), List.length_eq_zero_iff.1 (by omega)⟩

/-- If there is nothing to read, there is room to write. -/
theorem Carries.exists_moved_pos (h : r.Carries input) (undone : r.isDone = false) :
    ∃ call, 0 < r.moved call := by
  have room := h.valid.capacity_pos
  have writes := h.writes
  have reads := h.reads
  by_cases empty : r.ring.contents = []
  · have unsent : r.unsent ≠ [] := by
      intro none
      exact absurd (undone.symm.trans (h.isDone_iff.2 ⟨none, empty⟩)) nofun
    have some := List.length_pos_iff.2 unsent
    refine ⟨.send, ?_⟩
    rw [h.moved_send, empty, List.length_nil]
    omega
  · have some := List.length_pos_iff.2 empty
    refine ⟨.receive, ?_⟩
    rw [h.moved_receive]
    omega

/-- A call that moves nothing leaves what every call can move. -/
theorem Carries.moved_call_of_still (h : r.Carries input) {call : RelayCall}
    (still : r.moved call = 0) (other : RelayCall) :
    (r.call call).moved other = r.moved other := by
  have lengths := h.lengths_call call
  have next := h.call call
  have unsent : (r.call call).unsent.length = r.unsent.length := by
    cases call with
    | send => exact (Nat.add_zero _).symm.trans (still ▸ lengths.1)
    | receive => exact congrArg List.length lengths.1
  have contents : (r.call call).ring.contents.length = r.ring.contents.length := by
    cases call with
    | send => exact lengths.2.trans (by rw [still, Nat.add_zero])
    | receive => exact (Nat.add_zero _).symm.trans (still ▸ lengths.2)
  have kept : (r.call call).ring.capacity = r.ring.capacity ∧
      (r.call call).writePiece = r.writePiece ∧ (r.call call).readPiece = r.readPiece := by
    cases call <;> exact ⟨rfl, rfl, rfl⟩
  obtain ⟨capacity, writePiece, readPiece⟩ := kept
  cases other with
  | send => rw [next.moved_send, h.moved_send, unsent, contents, capacity, writePiece]
  | receive => rw [next.moved_receive, h.moved_receive, contents, readPiece]

theorem Carries.movesLeft_run_le (h : r.Carries input) (calls : List RelayCall) :
    (r.run calls).movesLeft ≤ r.movesLeft := by
  induction calls generalizing r with
  | nil => exact Nat.le_refl _
  | cons call calls ih =>
    have first := h.movesLeft_call call
    have rest := ih (h.call call)
    exact Nat.le_trans rest (by omega)

/-- A call that can move something still can when its turn comes, unless another has moved
something by then. -/
theorem Carries.movesLeft_run_lt (h : r.Carries input) {call : RelayCall}
    (moves : 0 < r.moved call) {calls : List RelayCall} (turn : call ∈ calls) :
    (r.run calls).movesLeft < r.movesLeft := by
  induction calls generalizing r with
  | nil => cases turn
  | cons first calls ih =>
    have step := h.movesLeft_call first
    by_cases still : r.moved first = 0
    · have later : call ∈ calls := by
        rcases List.mem_cons.1 turn with rfl | later
        · exact absurd still (Nat.ne_of_gt moves)
        · exact later
      have rest := ih (h.call first) (by rwa [h.moved_call_of_still still]) later
      exact Nat.lt_of_lt_of_le rest (by omega)
    · have rest := (h.call first).movesLeft_run_le calls
      exact Nat.lt_of_le_of_lt rest (by omega)

/-- A schedule of rounds in each of which both sides have a turn, however many and in whatever
order, is done after as many rounds as there are moves left. -/
theorem Carries.isDone_rounds (h : r.Carries input) {rounds : List (List RelayCall)}
    (turns : ∀ round ∈ rounds, ∀ call, call ∈ round) (enough : r.movesLeft ≤ rounds.length) :
    (r.run rounds.flatten).isDone = true := by
  induction rounds generalizing r with
  | nil => exact h.isDone_iff_movesLeft.2 (Nat.le_zero.1 enough)
  | cons round rounds ih =>
    have cut : r.run (round :: rounds).flatten = (r.run round).run rounds.flatten := by
      rw [List.flatten_cons]
      exact List.foldl_append
    have fewer : (r.run round).movesLeft ≤ rounds.length := by
      rw [List.length_cons] at enough
      cases done : r.isDone with
      | true =>
        have none := h.isDone_iff_movesLeft.1 done
        have rest := h.movesLeft_run_le round
        omega
      | false =>
        obtain ⟨call, moves⟩ := h.exists_moved_pos done
        have less := h.movesLeft_run_lt moves (turns round List.mem_cons_self call)
        omega
    rw [cut]
    exact ih (h.run round) (fun later member => turns later (List.mem_cons_of_mem _ member)) fewer

/-- Taking turns brings everything in as many rounds as there are elements to deliver. -/
theorem Carries.isDone_alternate (h : r.Carries input) {rounds : Nat}
    (enough : r.undelivered ≤ rounds) : (r.alternate rounds).isDone = true := by
  induction rounds generalizing r with
  | zero =>
    have none : r.ring.contents.length + r.unsent.length = 0 := Nat.le_zero.1 enough
    exact h.isDone_iff.2
      ⟨List.length_eq_zero_iff.1 (by omega), List.length_eq_zero_iff.1 (by omega)⟩
  | succ rounds ih =>
    unfold alternate
    split
    · assumption
    · rename_i undone
      rw [Bool.not_eq_true] at undone
      refine ih h.send.receive ?_
      -- after the write there is something to read, so the read delivers it
      have sent := h.lengths_call .send
      have got := h.send.lengths_call .receive
      have delivers : 0 < r.send.moved .receive := by
        have reads := h.send.reads
        rw [h.send.moved_receive]
        obtain ⟨call, moves⟩ := h.exists_moved_pos undone
        cases call with
        | send => omega
        | receive =>
          rw [h.moved_receive] at moves
          omega
      show r.send.receive.ring.contents.length + r.send.receive.unsent.length ≤ rounds
      rw [got.1]
      unfold undelivered at enough
      omega

theorem Carries.isDone_finish (h : r.Carries input) : r.finish.isDone = true := by
  refine h.isDone_alternate (Nat.le_of_eq ?_)
  rw [undelivered, h.valid.length_contents, Nat.add_comm]

/-! ## All of it -/

/-- **Streaming**: whatever the capacity and the sizes of the pieces, and in whatever order the two
sides make their calls, what was received, what is in the ring and what is unsent make up the text
after every call. Until everything has arrived one of the two next calls moves something, and no
call takes anything back; so every schedule in which both sides keep getting turns comes to its
end, and there the text has been received whole and the ring is empty. -/
theorem run_streams {capacity writePiece readPiece : Nat} (positive : 0 < capacity)
    (writes : 0 < writePiece) (reads : 0 < readPiece) (input : List α)
    (calls : List RelayCall) :
    let start : Relay α := { ring := .empty capacity, unsent := input, writePiece, readPiece }
    let r := start.run calls
    r.received.toList ++ r.ring.contents ++ r.unsent = input ∧
      (r.isDone = false → ∃ call, 0 < r.moved call) ∧
      (∀ call, (r.call call).unsent.length ≤ r.unsent.length ∧
        (r.call call).undelivered ≤ r.undelivered ∧
        (r.call call).movesLeft + r.moved call = r.movesLeft) ∧
      (∀ rounds : List (List RelayCall), (∀ round ∈ rounds, ∀ call, call ∈ round) →
        r.movesLeft ≤ rounds.length → (r.run rounds.flatten).isDone = true) ∧
      (r.isDone = true ↔ r.received.toList = input) ∧
      (r.isDone = true → r.ring.contents = []) := by
  intro start r
  have carries : r.Carries input := (carries_empty positive writes reads input).run calls
  refine ⟨carries.whole, carries.exists_moved_pos, ?_, ?_, carries.isDone_iff_received, ?_⟩
  · intro call
    exact ⟨carries.unsent_call_le call, carries.undelivered_call_le call,
      carries.movesLeft_call call⟩
  · intro rounds turns enough
    exact carries.isDone_rounds turns enough
  · intro done
    exact (carries.isDone_iff.1 done).2

/-- A ring that is smaller than both pieces, and a writer that gets its turns first: the ring is
full, what is left waits, and the reader can go on. -/
theorem run_streams_crowded :
    let start : Relay Nat :=
      { ring := .empty 2, unsent := [1, 2, 3, 4, 5], writePiece := 4, readPiece := 3 }
    let r := start.run [.send, .send, .receive, .send, .send]
    (0 < 2 ∧ 0 < 4 ∧ 0 < 3) ∧
      (r.received.toList = [1, 2] ∧ r.ring.contents = [3, 4] ∧ r.unsent = [5] ∧
        r.moved .send = 0) ∧
      r.received.toList ++ r.ring.contents ++ r.unsent = [1, 2, 3, 4, 5] ∧
      ∃ call, 0 < r.moved call := by
  intro start r
  obtain ⟨whole, progress, -⟩ := @run_streams Nat 2 4 3 (by decide) (by decide) (by decide)
    [1, 2, 3, 4, 5] [.send, .send, .receive, .send, .send]
  exact ⟨by decide, by decide, whole, progress (by decide)⟩

end Relay

end AudioCapture
