import AudioCapture.Ring.Layout
import AudioCapture.Signal.Basic

/-!
# Queues in shared memory

A ring together with the two words of its header that signals use: the signal word, and the mark
that says whether a signal group is bound to it. At most one group is bound at a time, and a group
that lets go leaves the word clear.
-/

namespace AudioCapture

structure Queue (α : Type) where
  ring : Ring α
  signals : Signals := {}
  bound : Bool := false

namespace Queue

variable {α : Type}

def make (layout : ElementLayout) (host : Host) (capacity : Nat) :
    Except Ring.Fault (Queue α) :=
  (Ring.make layout host capacity).map fun ring => { ring }

/-- The queues that come out are empty and have the capacity asked for. -/
theorem eq_of_make_eq_ok {layout : ElementLayout} {host : Host} {capacity : Nat} {q : Queue α}
    (h : make layout host capacity = .ok q) : q = { ring := .empty capacity } := by
  cases made : Ring.make (α := α) layout host capacity with
  | error fault =>
    rw [make, made] at h
    cases h
  | ok ring =>
    rw [make, made] at h
    cases h
    rw [(Ring.make_eq_ok_iff.1 made).1]

/-- Binds a signal group. -/
def bind? (q : Queue α) : Option (Queue α) :=
  if q.bound then none else some { q with bound := true }

def unbind (q : Queue α) : Queue α := { q with signals := {}, bound := false }

def wake (q : Queue α) (mask : Signals) : Queue α :=
  { q with signals := q.signals.union mask }

/-- Looks at the bits of a mask and clears those that were set. -/
def take (q : Queue α) (mask : Signals) : Queue α × Signals :=
  let (left, seen) := q.signals.take mask
  ({ q with signals := left }, seen)

/-- The failure to bind a second group. -/
def alreadyBound : Failure :=
  .invalidArguments "event flag word already bound to a signal group"

def text (q : Queue α) : String :=
  s!"MessageQueue \x7b capacity: {q.ring.capacity}, available_to_read: {q.ring.readable} \x7d"

end Queue

end AudioCapture
