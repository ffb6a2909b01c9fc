import AudioCapture.Breakdown

/-!
# Thread priority

The scheduling hints a capture thread can ask for, the requesters that pass them on, and the
level of the system's first-in first-out policy that a hint stands for. A requester is whatever
answers requests; those of the library are values of it.

* `level?_eq_some_iff`: which level a hint stands for, and when it stands for one.
* `level?_bounds`: it is one that the system accepts.
* `Requester.outcome`: how a request ends, at the latest when it is let go.
-/

namespace AudioCapture

inductive ThreadPriority where
  | normal
  | audio
  | urgent
  deriving DecidableEq, Repr, Inhabited

namespace ThreadPriority

def isElevated (priority : ThreadPriority) : Bool := priority != normal

def name : ThreadPriority → String
  | normal => "Normal"
  | audio => "Audio"
  | urgent => "Urgent"

end ThreadPriority

inductive PriorityError where
  | unsupported
  | refused (priority : ThreadPriority) (code : Int)
  deriving DecidableEq, Repr

def PriorityError.message : PriorityError → String
  | unsupported => "real-time scheduling unavailable on this platform"
  | refused priority code =>
      s!"scheduler refused priority {priority.name}: os error {code}"

/-- The levels of the first-in first-out policy that a system accepts. -/
structure FifoRange where
  lowest : Int32 := 1
  highest : Int32 := 99
  lowest_le : lowest.toInt ≤ highest.toInt := by decide
  deriving DecidableEq, Repr

/-- How far above the lowest level each hint asks to be scheduled. -/
structure FifoLevels where
  audio : Int32 := 2
  urgent : Int32 := 3
  deriving DecidableEq, Repr

/-- How a request ends, as far as the requester alone decides it. -/
inductive RequestEnd where
  | answered (answer : Except PriorityError Unit)
  | held
  /-- The caller breaks down, for a cause of the library's own or one of the requester. -/
  | brokeDown (cause? : Option Breakdown)

namespace FifoLevels

def above (levels : FifoLevels) : ThreadPriority → Int32
  | .normal => 0
  | .audio => levels.audio
  | .urgent => levels.urgent

/-- The level asked for, before it is brought into the range. -/
def wanted (levels : FifoLevels) (range : FifoRange) (priority : ThreadPriority) : Int :=
  range.lowest.toInt + (levels.above priority).toInt

/-- Whether a number is one of 32 bits with a sign. -/
def IsWord (number : Int) : Prop := -2147483648 ≤ number ∧ number ≤ 2147483647

instance (number : Int) : Decidable (IsWord number) := inferInstanceAs (Decidable (_ ∧ _))

/-- The level asked for, brought into the range; none when it is more than a word can hold. -/
def level? (levels : FifoLevels) (range : FifoRange) (priority : ThreadPriority) : Option Int :=
  let wanted := levels.wanted range priority
  if IsWord wanted then some (max range.lowest.toInt (min wanted range.highest.toInt)) else none

/-- What the system's code for a level means, zero for granted. -/
def answer (priority : ThreadPriority) (code : Int) : Except PriorityError Unit :=
  if code = 0 then .ok () else .error (.refused priority code)

/-- How a request ends when the system answers each level with a code. The normal priority is
granted without asking. -/
def request {m : Type → Type} [Monad m] (levels : FifoLevels) (range : FifoRange)
    (system : Int → m Int) (priority : ThreadPriority) : m RequestEnd :=
  if priority.isElevated then
    match levels.level? range priority with
    | none => return .brokeDown (some .levelOverflow)
    | some level => do
        let code ← system level
        return .answered (answer priority code)
  else return .answered (.ok ())

theorem level?_eq_some_iff {levels : FifoLevels} {range : FifoRange} {priority : ThreadPriority}
    {level : Int} :
    levels.level? range priority = some level ↔
      IsWord (levels.wanted range priority) ∧
        level = max range.lowest.toInt
          (min (levels.wanted range priority) range.highest.toInt) := by
  unfold level?
  by_cases fits : IsWord (levels.wanted range priority)
  · simp only [fits, if_true, true_and, Option.some.injEq]
    exact eq_comm
  · simp [fits]

theorem level?_bounds {levels : FifoLevels} {range : FifoRange} {priority : ThreadPriority}
    {level : Int} (h : levels.level? range priority = some level) :
    range.lowest.toInt ≤ level ∧ level ≤ range.highest.toInt := by
  obtain ⟨_, rfl⟩ := level?_eq_some_iff.1 h
  exact ⟨Int.le_max_left .., Int.max_le.2 ⟨range.lowest_le, Int.min_le_right ..⟩⟩

end FifoLevels

/-- The code with which a system turns down a process that may not schedule itself so. -/
def notPermitted : Int := 1

/-- What passes the wish of a capture thread on to the system. Whoever sets up a session may bring a
requester of their own. -/
structure Requester where
  request : ThreadPriority → RequestEnd
  /-- How a request ends that was held, once it is let go. -/
  release : ThreadPriority → RequestEnd := fun _ => .answered (.ok ())
  /-- A request that was let go is not held again. -/
  release_ne_held : ∀ priority, release priority ≠ .held := by simp
  /-- Whether it notes that it has ignored the wishes it grants. -/
  ignores : Bool := false

namespace Requester

/-- How a request ends, be it held for a while or not. -/
def outcome (requester : Requester) (priority : ThreadPriority) : RequestEnd :=
  match requester.request priority with
  | .held => requester.release priority
  | ends => ends

/-- Accepts every wish and does nothing. -/
def ignoring : Requester where
  request _ := .answered (.ok ())
  ignores := true

/-- Asks a system that permits nothing. -/
def fifo (levels : FifoLevels) : Requester where
  request priority := Id.run (levels.request {} (fun _ => return notPermitted) priority)

def accepting : Requester where
  request _ := .answered (.ok ())

def refusing (code : Int) : Requester where
  request priority := .answered (.error (.refused priority code))

def unsupporting : Requester where
  request _ := .answered (.error .unsupported)

/-- Keeps the caller until it is let go, then accepts. -/
def holding : Requester where
  request _ := .held

/-- Never answers: the caller breaks down in the request. -/
def breaking : Requester where
  request _ := .brokeDown none

variable {requester : Requester} {priority : ThreadPriority}

theorem outcome_of_held (held : requester.request priority = .held) :
    requester.outcome priority = requester.release priority := by
  rw [outcome, held]

theorem outcome_of_unheld (unheld : requester.request priority ≠ .held) :
    requester.outcome priority = requester.request priority := by
  unfold outcome
  split
  · exact absurd ‹_› unheld
  · rfl

end Requester

end AudioCapture
