import AudioCapture.Queue

/-!
# Signal groups

A queue whose ends are let go and on which signal groups are made and given up, in any order. Giving
up a group takes two steps: it clears the signal word, then it takes back the mark; others act in
between. Waits and wakes come down to what they do to the word, one access at a time.

* `phase_settle`, `phase_enroll`: a group that goes on, or is made, leaves the others alone.
-/

namespace AudioCapture

/-- Where a signal group is in its life. -/
inductive GroupPhase where
  | alive
  /-- Has cleared the word and is about to take back the mark. -/
  | leaving
  | gone
  deriving DecidableEq, Repr

inductive GroupEvent where
  | create
  /-- A wake sets its bits. -/
  | wake (group : Nat) (mask : Signals)
  /-- A wait takes those of its bits that are set. -/
  | look (group : Nat) (mask : Signals)
  /-- A group is given up and clears the word. -/
  | clear (group : Nat)
  /-- It takes back the mark. -/
  | unmark (group : Nat)
  /-- A group is given up and nobody comes between. -/
  | drop (group : Nat)
  | dropWriter
  | dropReader
  deriving DecidableEq, Repr

namespace Queue

variable {α : Type}

def clear (q : Queue α) : Queue α := { q with signals := {} }

def unmark (q : Queue α) : Queue α := { q with bound := false }

end Queue

structure SharedQueue (α : Type) where
  queue : Queue α
  hasWriter : Bool := true
  hasReader : Bool := true
  /-- The groups made so far, the oldest first. -/
  groups : List GroupPhase := []

namespace SharedQueue

variable {α : Type}

/-- Where a group is; one that was never made is not there. -/
def phase (s : SharedQueue α) (group : Nat) : GroupPhase := s.groups.getD group .gone

/-- The group was made and has not taken back the mark. -/
def Present (s : SharedQueue α) (group : Nat) : Prop := s.phase group ≠ .gone

/-- Adds a group that has bound the queue. -/
def enroll (s : SharedQueue α) (queue : Queue α) : SharedQueue α :=
  { s with queue, groups := s.groups ++ [.alive] }

/-- Makes a group; its number. Neither end is needed for that. -/
def create (s : SharedQueue α) : Except Failure Nat × SharedQueue α :=
  match s.queue.bind? with
  | none => (.error Queue.alreadyBound, s)
  | some queue => (.ok s.groups.length, s.enroll queue)

/-- Puts a group into a phase, with what it has made of the queue. -/
def settle (s : SharedQueue α) (group : Nat) (phase : GroupPhase) (queue : Queue α) :
    SharedQueue α :=
  { s with queue, groups := s.groups.set group phase }

/-- A step; a group acts only while it can. -/
def step (s : SharedQueue α) : GroupEvent → SharedQueue α
  | .create => s.create.2
  | .wake group mask =>
      if s.phase group = .alive then { s with queue := s.queue.wake mask } else s
  | .look group mask =>
      if s.phase group = .alive then { s with queue := (s.queue.take mask).1 } else s
  | .clear group => if s.phase group = .alive then s.settle group .leaving s.queue.clear else s
  | .unmark group => if s.phase group = .leaving then s.settle group .gone s.queue.unmark else s
  | .drop group => if s.phase group = .alive then s.settle group .gone s.queue.unbind else s
  | .dropWriter => { s with hasWriter := false }
  | .dropReader => { s with hasReader := false }

def run (s : SharedQueue α) (events : List GroupEvent) : SharedQueue α := events.foldl step s

theorem Present.lt_length {s : SharedQueue α} {group : Nat} (present : s.Present group) :
    group < s.groups.length := by
  apply Nat.lt_of_not_le
  intro beyond
  apply present
  simp [SharedQueue.phase, List.getElem?_eq_none beyond]

theorem phase_settle {s : SharedQueue α} {group : Nat} (present : s.Present group)
    (phase : GroupPhase) (queue : Queue α) (other : Nat) :
    (s.settle group phase queue).phase other = if other = group then phase else s.phase other := by
  have here := present.lt_length
  simp only [SharedQueue.phase, settle, List.getD_eq_getElem?_getD, List.getElem?_set]
  by_cases same : other = group
  · subst same
    simp [here]
  · rw [if_neg (Ne.symm same), if_neg same]

theorem phase_enroll (s : SharedQueue α) (queue : Queue α) (other : Nat) :
    (s.enroll queue).phase other = if other = s.groups.length then .alive else s.phase other := by
  simp only [phase, enroll, List.getD_eq_getElem?_getD]
  rcases Nat.lt_trichotomy other s.groups.length with before | rfl | behind
  · rw [List.getElem?_append_left before, if_neg (Nat.ne_of_lt before)]
  · simp
  · rw [List.getElem?_eq_none (by simp; omega), List.getElem?_eq_none (by omega),
      if_neg (Nat.ne_of_gt behind)]

end SharedQueue

end AudioCapture
