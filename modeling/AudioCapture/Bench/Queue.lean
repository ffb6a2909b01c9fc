import AudioCapture.Capture.View
import AudioCapture.Signal.Monitor

/-!
# A queue on the bench

A queue with its two ends and the signal groups made on it, each of which can be given up on its
own. Groups are numbered in the order in which they are made.

* `makeGroup` refuses a second group for as long as the first is there.
-/

namespace AudioCapture

structure QueueBench (α : Type) where
  queue : Queue α
  /-- Whether signal groups can be made on it. -/
  signalled : Bool
  hasWriter : Bool := true
  hasReader : Bool := true
  /-- Whether each of the groups made so far is still there. -/
  groups : List Bool := []

namespace QueueBench

variable {α : Type}

/-- How many ends and groups share the queue; none when both ends are gone. -/
def handles? (b : QueueBench α) : Option Nat :=
  if b.hasWriter || b.hasReader then
    some (b.hasWriter.toNat + b.hasReader.toNat + b.groups.count true)
  else none

/-! ## The ends -/

def withRing (b : QueueBench α) (ring : Ring α) : QueueBench α :=
  { b with queue := { b.queue with ring } }

def onWriter {β : Type} (b : QueueBench α) (act : Ring α → Ring α × β) :
    Option β × QueueBench α :=
  if b.hasWriter then
    let (ring, value) := act b.queue.ring
    (some value, b.withRing ring)
  else (none, b)

def onReader {β : Type} (b : QueueBench α) (act : Ring α → Ring α × β) :
    Option β × QueueBench α :=
  if b.hasReader then
    let (ring, value) := act b.queue.ring
    (some value, b.withRing ring)
  else (none, b)

def writerText? (b : QueueBench α) : Option String :=
  if b.hasWriter then some s!"Producer({b.queue.text})" else none

def readerText? (b : QueueBench α) : Option String :=
  if b.hasReader then some s!"Consumer({b.queue.text})" else none

/-! ## Signal groups -/

def hasGroup (b : QueueBench α) (slot : Nat) : Bool := b.groups[slot]? == some true

/-- The text of each group that is still there. -/
def groupTexts (b : QueueBench α) : List (Option String) :=
  let text := s!"SignalGroup \x7b pending: SignalMask({b.queue.signals.bits}) \x7d"
  b.groups.map fun present => if present then some text else none

/-- Makes a group; its number. There has to be an end to make it on. -/
def makeGroup (b : QueueBench α) : Option (Except Failure Nat) × QueueBench α :=
  if !b.signalled || b.handles?.isNone then (none, b)
  else
    match b.queue.bind? with
    | none => (some (.error Queue.alreadyBound), b)
    | some queue =>
        (some (.ok b.groups.length), { b with queue, groups := b.groups ++ [true] })

def dropGroup (b : QueueBench α) (slot : Nat) : QueueBench α :=
  { b with queue := b.queue.unbind, groups := b.groups.set slot false }

def wake (b : QueueBench α) (mask : Signals) : QueueBench α :=
  { b with queue := b.queue.wake mask }

/-- What is left of a wait: what was seen, and the signals after it. -/
def leaveWait (b : QueueBench α) (m : Monitor) : Signals × QueueBench α :=
  (m.seen 0, { b with queue := { b.queue with signals := m.word } })

/-- Waits while nobody wakes. -/
def wait (b : QueueBench α) (mask : Signals) : Signals × QueueBench α :=
  b.leaveWait (Monitor.waitAlone b.queue.signals mask)

/-- Waits while another thread wakes. -/
def waitWoken (b : QueueBench α) (mask wake : Signals) : Signals × QueueBench α :=
  b.leaveWait (Monitor.waitWoken b.queue.signals mask wake)

end QueueBench

end AudioCapture
