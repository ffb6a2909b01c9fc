import AudioCapture.Ring.Basic

/-!
# Contents of a ring

What each operation does to the unread elements of a valid ring:

* `contents_writeFrom`, `contents_write` — a write appends the first of its items, as many as
  there is room for, also where the copy goes round the end of the slots;
* `read_snd_eq_take`, `contents_read` — a read takes elements off the front;
* `readOne_snd`, `contents_readOne` — so does a read of one element;
* `Valid.writeFrom`, `Valid.read`, `Valid.readOne` — the ring stays valid.
-/

namespace AudioCapture

namespace Ring

variable {α : Type}

/-! ## Gathering -/

theorem gather_succ (item : Nat → Option α) (number : Nat) :
    gather item (number + 1) = gather item number ++ (item number).toList := by
  rw [gather_add]
  show _ ++ (List.range 1).filterMap _ = _
  cases given : item number <;> simp [List.range_succ, given]

theorem gather_some (item : Nat → α) (number : Nat) :
    gather (fun i => some (item i)) number = (List.range number).map item :=
  congrFun List.filterMap_eq_map' _

theorem gather_getElem? (items : List α) (number : Nat) :
    gather (fun i => items[i]?) number = items.take number := by
  induction number with
  | zero => simp [gather]
  | succ number ih => rw [gather_succ, ih, List.take_add_one]

theorem length_gather {item : Nat → Option α} {number : Nat}
    (given : ∀ i < number, (item i).isSome = true) : (gather item number).length = number := by
  induction number with
  | zero => rfl
  | succ number ih =>
    obtain ⟨a, last⟩ := Option.isSome_iff_exists.1 (given number (Nat.lt_succ_self number))
    rw [gather_succ, List.length_append, ih fun i below => given i (Nat.lt_succ_of_lt below), last]
    rfl

/-! ## Elements -/

theorem elements_add (r : Ring α) (count first second : Nat) :
    r.elements count (first + second) =
      r.elements count first ++ r.elements (count + first) second := by
  simp only [elements, gather_add, Nat.add_assoc]

/-- The elements that were copied in. -/
theorem elements_put (r : Ring α) (count : Nat) {number : Nat} (item : Nat → Option α)
    (fits : number ≤ r.capacity) :
    (r.put count number item).elements count number = gather item number :=
  gather_congr fun _ below => load?_put_of_lt r count item fits below

/-- Elements before those that were copied in, less than a lap behind. -/
theorem elements_put_of_le (r : Ring α) {count number first length : Nat}
    (item : Nat → Option α) (fits : number ≤ r.capacity) (before : first + length ≤ count)
    (kept : count + number ≤ first + r.capacity) :
    (r.put count number item).elements first length = r.elements first length :=
  gather_congr fun i below => load?_put_of_le r item fits (by omega) (by omega)

theorem Valid.length_elements {r : Ring α} (h : r.Valid) {count number : Nat}
    (unread : r.consumed ≤ count) (stored : count + number ≤ r.written) :
    (r.elements count number).length = number :=
  length_gather fun i below => h.stored (count + i) (by omega) (by omega)

/-! ## Fill levels -/

theorem Valid.length_contents {r : Ring α} (h : r.Valid) : r.contents.length = r.readable := by
  have ordered := h.consumed_le
  rw [h.readable_eq, contents, h.length_elements (Nat.le_refl _) (by omega)]

theorem Valid.free_eq {r : Ring α} (h : r.Valid) :
    r.free = r.capacity - r.contents.length := by
  rw [h.length_contents]
  rfl

@[simp] theorem contents_empty (capacity : Nat) : (empty capacity : Ring α).contents = [] := rfl

/-! ## Writing -/

theorem Valid.writeFrom {r : Ring α} (h : r.Valid) {number : Nat} {item : Nat → Option α}
    (given : ∀ i < min number r.free, (item i).isSome = true) :
    (r.writeFrom number item).1.Valid := by
  have level := h.readable_eq
  have room := r.readable_add_free
  have ordered := h.consumed_le
  have bounded := h.written_le
  refine ⟨h.capacity_pos, ?_, ?_, ?_⟩
  · show r.consumed ≤ r.written + min number r.free
    omega
  · show r.written + min number r.free ≤ r.consumed + r.capacity
    omega
  · intro count unread below
    change r.consumed ≤ count at unread
    change count < r.written + min number r.free at below
    change ((r.put r.written (min number r.free) item).load? count).isSome = true
    -- behind the old end is what was copied in, and the rest is less than a lap back
    by_cases old : count < r.written
    · rw [load?_put_of_le r item (by omega) old (by omega)]
      exact h.stored count unread old
    · rw [show count = r.written + (count - r.written) by omega,
        load?_put_of_lt r r.written item (by omega) (by omega)]
      exact given _ (by omega)

/-- A write appends what there is room for. -/
theorem Valid.contents_writeFrom {r : Ring α} (h : r.Valid) (number : Nat)
    (item : Nat → Option α) :
    (r.writeFrom number item).1.contents = r.contents ++ gather item (min number r.free) := by
  have level := h.readable_eq
  have room := r.readable_add_free
  have ordered := h.consumed_le
  show (r.put r.written (min number r.free) item).elements r.consumed
    (r.written + min number r.free - r.consumed) = _
  -- cut at the old end: the copy leaves alone what is before it
  rw [show r.written + min number r.free - r.consumed =
      (r.written - r.consumed) + min number r.free by omega, elements_add,
    elements_put_of_le r item (by omega) (by omega) (by omega),
    show r.consumed + (r.written - r.consumed) = r.written by omega,
    elements_put r r.written item (by omega)]
  rfl

theorem Valid.write {r : Ring α} (h : r.Valid) (items : List α) : (r.write items).1.Valid := by
  rw [write_eq_writeFrom]
  exact h.writeFrom fun i below => by simp; omega

@[simp] theorem write_snd (r : Ring α) (items : List α) :
    (r.write items).2 = min items.length r.free := by
  rw [write_eq_writeFrom]
  rfl

@[simp] theorem writeOne_snd (r : Ring α) (item : α) :
    (r.writeOne item).2 = decide (0 < r.free) := by
  show ((r.write [item]).2 == 1) = _
  rw [write_snd, List.length_singleton, Bool.eq_iff_iff, beq_iff_eq, decide_eq_true_iff]
  omega

theorem Valid.contents_write {r : Ring α} (h : r.Valid) (items : List α) :
    (r.write items).1.contents = r.contents ++ items.take r.free := by
  rw [write_eq_writeFrom, h.contents_writeFrom, gather_getElem?, Nat.min_comm,
    ← List.take_eq_take_min]

/-! ## Reading -/

theorem Valid.read {r : Ring α} (h : r.Valid) (most : Nat) : (r.read most).1.Valid := by
  have level := h.readable_eq
  have bounded := h.written_le
  refine ⟨h.capacity_pos, ?_, ?_, ?_⟩
  · show r.consumed + min r.readable most ≤ r.written
    have ordered := h.consumed_le
    omega
  · show r.written ≤ r.consumed + min r.readable most + r.capacity
    omega
  · intro count unread below
    change r.consumed + min r.readable most ≤ count at unread
    exact h.stored count (by omega) below

/-- What a read takes is followed by what it leaves. -/
theorem Valid.read_append_contents {r : Ring α} (h : r.Valid) (most : Nat) :
    (r.read most).2 ++ (r.read most).1.contents = r.contents := by
  have level := h.readable_eq
  have ordered := h.consumed_le
  rw [read_snd]
  show _ ++ r.elements (r.consumed + min r.readable most)
    (r.written - (r.consumed + min r.readable most)) = _
  rw [← elements_add, contents]
  congr 1
  omega

theorem Valid.length_read_snd {r : Ring α} (h : r.Valid) (most : Nat) :
    (r.read most).2.length = min r.readable most := by
  have level := h.readable_eq
  have ordered := h.consumed_le
  rw [read_snd, h.length_elements (Nat.le_refl _) (by omega)]

theorem Valid.read_snd_eq_take {r : Ring α} (h : r.Valid) (most : Nat) :
    (r.read most).2 = r.contents.take most := by
  have taken : (r.read most).2 = r.contents.take (min r.readable most) := by
    rw [← h.read_append_contents most, ← h.length_read_snd, List.take_left]
  rw [taken, ← h.length_contents, Nat.min_comm, ← List.take_eq_take_min]

theorem Valid.contents_read {r : Ring α} (h : r.Valid) (most : Nat) :
    (r.read most).1.contents = r.contents.drop most := by
  have whole := h.read_append_contents most
  rw [h.read_snd_eq_take] at whole
  exact List.append_cancel_left (whole.trans (List.take_append_drop most _).symm)

/-- A read of one element is a read of at most one. -/
theorem Valid.readOne_eq_read {r : Ring α} (h : r.Valid) :
    r.readOne = ((r.read 1).1, (r.read 1).2.head?) := by
  have level := h.readable_eq
  -- reading one element looks at the counts directly, not at the fill level
  by_cases none : r.written ≤ r.consumed
  · have nothing : min r.readable 1 = 0 := by omega
    rw [readOne, if_pos none, read_snd, nothing]
    show (r, _) = ({ r with consumed := r.consumed + min r.readable 1 }, _)
    rw [nothing]
    rfl
  · have single : min r.readable 1 = 1 := by omega
    obtain ⟨item, given⟩ := Option.isSome_iff_exists.1
      (h.stored r.consumed (Nat.le_refl _) (Nat.lt_of_not_le none))
    rw [readOne, if_neg none, read_snd, single]
    show _ = ({ r with consumed := r.consumed + min r.readable 1 }, _)
    rw [single, elements, gather_succ]
    simp [gather, given]

theorem Valid.readOne {r : Ring α} (h : r.Valid) : r.readOne.1.Valid := by
  rw [h.readOne_eq_read]
  exact h.read 1

theorem Valid.readOne_snd {r : Ring α} (h : r.Valid) : r.readOne.2 = r.contents.head? := by
  rw [h.readOne_eq_read]
  show (r.read 1).2.head? = _
  rw [h.read_snd_eq_take]
  cases r.contents <;> rfl

theorem Valid.contents_readOne {r : Ring α} (h : r.Valid) :
    r.readOne.1.contents = r.contents.tail := by
  rw [h.readOne_eq_read]
  show (r.read 1).1.contents = _
  rw [h.contents_read, List.drop_one]

end Ring

end AudioCapture
