import AudioCapture.Ring.Slots

/-!
# Rings

A bounded first-in first-out queue for one writer and one reader. Both sides count the elements
they have moved since the start; an element with count `n` lives in slot `n` modulo the capacity.

* `readable_add_free`: what can be read and what can be written make up the capacity.
* `load?_put_of_lt`, `load?_put_of_le`: what is copied in is there afterwards, and the elements of
  the last lap that it does not reach are left alone.
* `copyOut_eq_elements`: what is copied out in two stretches are the elements in order.
-/

namespace AudioCapture

structure Ring (α : Type) where
  capacity : Nat
  /-- How many elements have been written since the start. -/
  written : Nat := 0
  /-- How many of them have been read. -/
  consumed : Nat := 0
  slots : Slots α := .empty

namespace Ring

variable {α : Type}

def empty (capacity : Nat) : Ring α := { capacity }

/-- The slot of the element with a count. -/
def index (r : Ring α) (count : Nat) : Nat := count % r.capacity

/-- The number of unread elements between two counts, as far as a ring can hold them. -/
def span (r : Ring α) (written consumed : Nat) : Nat := min (written - consumed) r.capacity

def readable (r : Ring α) : Nat := r.span r.written r.consumed

def free (r : Ring α) : Nat := r.capacity - r.readable

/-! ## Slots -/

/-- Copies `number` elements, of which `item` gives each, into the slots from a count on: up to the
end of the slots, and what is left to their start. -/
def put (r : Ring α) (count number : Nat) (item : Nat → Option α) : Ring α :=
  let start := r.index count
  let first := min number (r.capacity - start)
  let upper := r.slots.fill r.capacity start (start + first) fun place => item (place - start)
  let both := upper.fill r.capacity 0 (number - first) fun place => item (place + first)
  { r with slots := both }

def store (r : Ring α) (count : Nat) (item : α) : Ring α := r.put count 1 fun _ => some item

/-- Copies elements into the slots from a count on, one by one. -/
def copyIn (r : Ring α) (count : Nat) : List α → Ring α
  | [] => r
  | item :: items => copyIn (r.store count item) (count + 1) items

def load? (r : Ring α) (count : Nat) : Option α := r.slots.get (r.index count)

/-- What `item` gives for the first numbers, in order. -/
def gather (item : Nat → Option α) (number : Nat) : List α := (List.range number).filterMap item

/-- The elements with the counts from one on. -/
def elements (r : Ring α) (count number : Nat) : List α :=
  gather (fun i => r.load? (count + i)) number

/-- What a stretch of slots holds. -/
def stretch (r : Ring α) (start number : Nat) : List α :=
  gather (fun i => r.slots.get (start + i)) number

/-- Copies elements out of the slots from a count on: up to the end of the slots, and what is left
from their start. -/
def copyOut (r : Ring α) (count number : Nat) : List α :=
  let start := r.index count
  let first := min number (r.capacity - start)
  r.stretch start first ++ r.stretch 0 (number - first)

/-- The unread elements, the oldest first. -/
def contents (r : Ring α) : List α := r.elements r.consumed (r.written - r.consumed)

/-! ## Operations -/

/-- Writes as many of a number of elements as fit, of which `item` gives each; also their
number. -/
def writeFrom (r : Ring α) (number : Nat) (item : Nat → Option α) : Ring α × Nat :=
  let count := min number r.free
  ({ r.put r.written count item with written := r.written + count }, count)

/-- Writes as many of the elements as fit; also their number. -/
def write (r : Ring α) (items : List α) : Ring α × Nat :=
  let items := items.toArray
  r.writeFrom items.size fun i => items[i]?

/-- Writes one element; also whether it fitted. -/
def writeOne (r : Ring α) (item : α) : Ring α × Bool :=
  let (next, count) := r.write [item]
  (next, count == 1)

/-- Reads up to `most` elements. -/
def read (r : Ring α) (most : Nat) : Ring α × List α :=
  let count := min r.readable most
  ({ r with consumed := r.consumed + count }, r.copyOut r.consumed count)

/-- Reads the oldest element, if there is one. -/
def readOne (r : Ring α) : Ring α × Option α :=
  if r.written ≤ r.consumed then (r, none)
  else ({ r with consumed := r.consumed + 1 }, r.load? r.consumed)

/-- What every ring keeps that is used from its two ends only. -/
structure Valid (r : Ring α) : Prop where
  capacity_pos : 0 < r.capacity
  consumed_le : r.consumed ≤ r.written
  written_le : r.written ≤ r.consumed + r.capacity
  stored : ∀ count, r.consumed ≤ count → count < r.written → (r.load? count).isSome

theorem readable_le (r : Ring α) : r.readable ≤ r.capacity := Nat.min_le_right _ _

theorem readable_add_free (r : Ring α) : r.readable + r.free = r.capacity := by
  have := r.readable_le
  unfold free
  omega

theorem valid_empty {capacity : Nat} (h : 0 < capacity) : (empty capacity : Ring α).Valid :=
  ⟨h, Nat.le_refl 0, Nat.zero_le _, fun _ _ below => absurd below (Nat.not_lt_zero _)⟩

theorem Valid.readable_eq {r : Ring α} (h : r.Valid) : r.readable = r.written - r.consumed := by
  have := h.written_le
  simp only [readable, span]
  omega

/-- To write elements is to write what their list gives. -/
theorem write_eq_writeFrom (r : Ring α) (items : List α) :
    r.write items = r.writeFrom items.length fun i => items[i]? := by
  simp [write]

/-! ## What copying in does -/

/-- How far behind the slot of a count a slot lies, round the end of the slots. -/
def offset (r : Ring α) (count place : Nat) : Nat :=
  if r.index count ≤ place then place - r.index count
  else place + r.capacity - r.index count

theorem index_lt {r : Ring α} (h : 0 < r.capacity) (count : Nat) : r.index count < r.capacity :=
  Nat.mod_lt _ h

theorem index_add {r : Ring α} {count i : Nat} (within : i < r.capacity) :
    r.index (count + i) = if r.index count + i < r.capacity then r.index count + i
      else r.index count + i - r.capacity := by
  have low := index_lt (Nat.lt_of_le_of_lt (Nat.zero_le i) within) count
  unfold index at low ⊢
  rw [Nat.add_mod, Nat.mod_eq_of_lt within]
  split
  · exact Nat.mod_eq_of_lt ‹_›
  · rw [Nat.mod_eq_sub_mod (by omega)]
    exact Nat.mod_eq_of_lt (by omega)

theorem offset_index {r : Ring α} {count i : Nat} (within : i < r.capacity) :
    r.offset count (r.index (count + i)) = i := by
  have low := index_lt (Nat.lt_of_le_of_lt (Nat.zero_le i) within) count
  rw [index_add within]
  unfold offset
  split <;> split <;> omega

theorem get_put (r : Ring α) (count : Nat) {number place : Nat} (item : Nat → Option α)
    (fits : number ≤ r.capacity) (inside : place < r.capacity) :
    (r.put count number item).slots.get place =
      if r.offset count place < number then item (r.offset count place)
      else r.slots.get place := by
  have low := index_lt (Nat.lt_of_le_of_lt (Nat.zero_le place) inside) count
  simp only [put, Slots.get_fill _ inside]
  unfold offset
  by_cases above : r.index count ≤ place
  · simp only [if_pos above]
    rw [if_neg (by omega)]
    by_cases reached : place - r.index count < number
    · rw [if_pos (by omega), if_pos reached]
    · rw [if_neg (by omega), if_neg reached]
  · simp only [if_neg above]
    by_cases reached : place + r.capacity - r.index count < number
    · rw [if_pos (by omega), if_pos reached]
      congr 1
      omega
    · rw [if_neg (by omega), if_neg (by omega), if_neg reached]

theorem load?_put_of_lt (r : Ring α) (count : Nat) {number i : Nat} (item : Nat → Option α)
    (fits : number ≤ r.capacity) (h : i < number) :
    (r.put count number item).load? (count + i) = item i := by
  have within : i < r.capacity := Nat.lt_of_lt_of_le h fits
  show (r.put count number item).slots.get (r.index (count + i)) = item i
  rw [get_put r count item fits (index_lt (by omega) _), offset_index within, if_pos h]

theorem load?_put_of_le (r : Ring α) {count number i : Nat} (item : Nat → Option α)
    (fits : number ≤ r.capacity) (h : i < count) (kept : count + number ≤ i + r.capacity) :
    (r.put count number item).load? i = r.load? i := by
  by_cases none : number = 0
  · subst none
    by_cases positive : 0 < r.capacity
    · show (r.put count 0 item).slots.get (r.index i) = _
      rw [get_put r count item fits (index_lt positive _), if_neg (Nat.not_lt_zero _)]
      rfl
    · omega
  · have lap : r.index i = r.index (count + (i + r.capacity - count)) := by
      unfold index
      rw [show count + (i + r.capacity - count) = i + r.capacity by omega, Nat.add_mod_right]
    have within : i + r.capacity - count < r.capacity := by omega
    show (r.put count number item).slots.get (r.index i) = r.slots.get (r.index i)
    rw [get_put r count item fits (index_lt (by omega) _), lap, offset_index within,
      if_neg (by omega)]

/-! ## What copying out gives -/

theorem gather_congr {item other : Nat → Option α} {number : Nat}
    (h : ∀ i < number, item i = other i) : gather item number = gather other number := by
  induction number with
  | zero => rfl
  | succ number ih =>
    simp only [gather, List.range_succ, List.filterMap_append] at ih ⊢
    rw [ih fun i below => h i (Nat.lt_succ_of_lt below)]
    simp only [List.filterMap_cons, List.filterMap_nil, h number (Nat.lt_succ_self number)]

theorem gather_add (item : Nat → Option α) (first second : Nat) :
    gather item (first + second) =
      gather item first ++ gather (fun i => item (first + i)) second := by
  rw [gather, List.range_add, List.filterMap_append, List.filterMap_map]
  rfl

/-- To copy out in two stretches is to take the elements one by one. -/
theorem copyOut_eq_elements (r : Ring α) (count : Nat) {number : Nat}
    (fits : number ≤ r.capacity) : r.copyOut count number = r.elements count number := by
  by_cases none : number = 0
  · subst none
    simp [copyOut, stretch, elements, gather]
  have low : r.index count < r.capacity := index_lt (by omega) count
  have upper : ∀ i < min number (r.capacity - r.index count),
      r.slots.get (r.index count + i) = r.load? (count + i) := by
    intro i below
    show _ = r.slots.get (r.index (count + i))
    rw [index_add (by omega), if_pos (by omega)]
  have lower : ∀ i < number - min number (r.capacity - r.index count),
      r.slots.get (0 + i) =
        r.load? (count + (min number (r.capacity - r.index count) + i)) := by
    intro i below
    show _ = r.slots.get (r.index _)
    rw [index_add (by omega), if_neg (by omega)]
    congr 1
    omega
  have cut : number = min number (r.capacity - r.index count) +
      (number - min number (r.capacity - r.index count)) := by omega
  simp only [copyOut, stretch]
  rw [gather_congr upper, gather_congr lower]
  conv => rhs; rw [cut]
  exact (gather_add _ _ _).symm

theorem read_snd (r : Ring α) (most : Nat) :
    (r.read most).2 = r.elements r.consumed (min r.readable most) :=
  r.copyOut_eq_elements _ (Nat.le_trans (Nat.min_le_left _ _) r.readable_le)

/-! ## Rings that hold the same -/

/-- Whether two rings have the same counts and hold the same in every slot. -/
structure Same (r s : Ring α) : Prop where
  capacity : r.capacity = s.capacity
  written : r.written = s.written
  consumed : r.consumed = s.consumed
  get : ∀ place < r.capacity, r.slots.get place = s.slots.get place

theorem copyIn_counts (r : Ring α) (count : Nat) (items : List α) :
    (r.copyIn count items).capacity = r.capacity ∧
      (r.copyIn count items).consumed = r.consumed := by
  induction items generalizing r count with
  | nil => exact ⟨rfl, rfl⟩
  | cons item items ih => exact ih (r.store count item) (count + 1)

theorem get_copyIn (r : Ring α) (count : Nat) (items : List α) {place : Nat}
    (fits : items.length ≤ r.capacity) (inside : place < r.capacity) :
    (r.copyIn count items).slots.get place =
      if r.offset count place < items.length then items[r.offset count place]?
      else r.slots.get place := by
  induction items generalizing r count with
  | nil => rfl
  | cons item items ih =>
    rw [List.length_cons] at fits
    have next : r.index (count + 1) =
        if r.index count + 1 < r.capacity then r.index count + 1 else 0 := by
      by_cases single : 1 < r.capacity
      · rw [index_add single]
        have := index_lt (Nat.lt_of_le_of_lt (Nat.zero_le place) inside) count
        split <;> omega
      · have one : r.capacity = 1 := by omega
        have low := index_lt (Nat.lt_of_le_of_lt (Nat.zero_le place) inside) (count + 1)
        rw [if_neg (by omega)]
        omega
    have low := index_lt (Nat.lt_of_le_of_lt (Nat.zero_le place) inside) count
    have stored : (r.store count item).slots.get place =
        if r.offset count place < 1 then some item else r.slots.get place :=
      get_put r count _ (by omega) inside
    have moved : (r.store count item).offset (count + 1) place =
        if r.offset count place < 1 then r.capacity - 1 else r.offset count place - 1 := by
      show (if r.index (count + 1) ≤ place then place - r.index (count + 1)
        else place + r.capacity - r.index (count + 1)) = _
      rw [next]
      unfold offset
      repeat' split
      all_goals omega
    rw [copyIn, ih (r.store count item) (count + 1) (by show _ ≤ r.capacity; omega) inside,
      stored, moved, List.length_cons]
    by_cases here : r.offset count place < 1
    · rw [if_pos here, if_neg (by omega), if_pos here, if_pos (by omega),
        show r.offset count place = 0 by omega]
      rfl
    · rw [if_neg here, if_neg here]
      by_cases reached : r.offset count place < items.length + 1
      · rw [if_pos (by omega), if_pos reached,
          show r.offset count place = r.offset count place - 1 + 1 by omega]
        rfl
      · rw [if_neg (by omega), if_neg reached]

/-- Copying the elements that fit one by one leaves what a write leaves. -/
theorem copyIn_same_write (r : Ring α) (items : List α) :
    Same { r.copyIn r.written (items.take r.free) with
        written := r.written + (items.take r.free).length } (r.write items).1 := by
  have length : (items.take r.free).length = min items.length r.free := by
    rw [List.length_take, Nat.min_comm]
  have fits : min items.length r.free ≤ r.capacity := by
    have := r.readable_add_free
    omega
  obtain ⟨capacity, consumed⟩ := copyIn_counts r r.written (items.take r.free)
  rw [write_eq_writeFrom]
  refine ⟨capacity, ?_, consumed, fun place inside => ?_⟩
  · rw [length]
    rfl
  · have inside : place < r.capacity := capacity ▸ inside
    show (r.copyIn r.written (items.take r.free)).slots.get place =
      (r.put r.written (min items.length r.free) fun i => items[i]?).slots.get place
    rw [get_copyIn r _ _ (by omega) inside, get_put r _ _ fits inside, length]
    split
    · rw [List.getElem?_take_of_lt (by omega)]
    · rfl

end Ring

end AudioCapture
