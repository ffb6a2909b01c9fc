/-!
# Signals

The two bits by which the ends of a transport wake each other: data are there for the consumer,
and space is there for the producer.

* `take_left`, `take_seen`: a look at the bits clears those it sees and no others.
* `sees_space`, `sees_data`: a look for one bit sees it if it is set.
* `has_union`, `has_inter`, `has_diff`: the operations bit by bit.
-/

namespace AudioCapture

/-- A set of signal bits. -/
structure Signals where
  notEmpty : Bool := false
  notFull : Bool := false
  deriving DecidableEq, Repr, Inhabited

/-- One of the two bits. -/
inductive SignalBit where
  | notEmpty
  | notFull
  deriving DecidableEq, Repr

namespace Signals

def none : Signals := {}

/-- Data are there for the consumer. -/
def dataReady : Signals := { notEmpty := true }

/-- Space is there for the producer. -/
def spaceReady : Signals := { notFull := true }

def bits (s : Signals) : Nat := s.notEmpty.toNat + 2 * s.notFull.toNat

def isEmpty (s : Signals) : Bool := !s.notEmpty && !s.notFull

def union (s t : Signals) : Signals := ⟨s.notEmpty || t.notEmpty, s.notFull || t.notFull⟩

def inter (s t : Signals) : Signals := ⟨s.notEmpty && t.notEmpty, s.notFull && t.notFull⟩

def diff (s t : Signals) : Signals := ⟨s.notEmpty && !t.notEmpty, s.notFull && !t.notFull⟩

def has (s : Signals) : SignalBit → Bool
  | .notEmpty => s.notEmpty
  | .notFull => s.notFull

/-- Whether `t` names a bit at all and all of its bits are in `s`. -/
def contains (s t : Signals) : Bool := !t.isEmpty && s.inter t == t

/-- Looks at the bits of a mask: what is left of the word, and what was seen. -/
def take (word mask : Signals) : Signals × Signals := (word.diff mask, word.inter mask)

@[simp] theorem contains_none (s : Signals) : s.contains none = false := rfl

@[simp] theorem has_union (s t : Signals) (bit : SignalBit) :
    (s.union t).has bit = (s.has bit || t.has bit) := by cases bit <;> rfl

@[simp] theorem has_inter (s t : Signals) (bit : SignalBit) :
    (s.inter t).has bit = (s.has bit && t.has bit) := by cases bit <;> rfl

@[simp] theorem has_diff (s t : Signals) (bit : SignalBit) :
    (s.diff t).has bit = (s.has bit && !t.has bit) := by cases bit <;> rfl

theorem take_left (word mask : Signals) : (word.take mask).1 = word.diff mask := rfl

theorem take_seen (word mask : Signals) : (word.take mask).2 = word.inter mask := rfl

theorem sees_space (s : Signals) :
    (s.take .spaceReady).2.contains .spaceReady = s.notFull := by
  rcases s with ⟨data, space⟩
  cases data <;> cases space <;> rfl

theorem sees_data (s : Signals) :
    (s.take .dataReady).2.contains .dataReady = s.notEmpty := by
  rcases s with ⟨data, space⟩
  cases data <;> cases space <;> rfl

end Signals

end AudioCapture
