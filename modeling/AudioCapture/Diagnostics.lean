import AudioCapture.Lifecycle

/-!
# Diagnostics

The capture thread counts in natural numbers; a snapshot shows every count as a 64-bit word, so a
count that passes `2 ^ 64` starts again at zero in it.
-/

namespace AudioCapture

/-- What the capture thread has done so far. -/
structure Tally where
  iterations : Nat := 0
  idleWaits : Nat := 0
  readsOk : Nat := 0
  readErrors : Nat := 0
  bytesRead : Nat := 0
  bytesPublished : Nat := 0
  shortWrites : Nat := 0
  bytesDropped : Nat := 0
  statusPublished : Nat := 0
  statusDrops : Nat := 0
  deriving DecidableEq, Repr, Inhabited

/-- A snapshot of the counts, with the state of the thread if there has been one. -/
structure Diagnostics where
  workerState : Option WorkerState := none
  iterations : UInt64 := 0
  idleWaits : UInt64 := 0
  readsOk : UInt64 := 0
  readErrors : UInt64 := 0
  bytesRead : UInt64 := 0
  bytesPublished : UInt64 := 0
  shortWrites : UInt64 := 0
  bytesDropped : UInt64 := 0
  statusPublished : UInt64 := 0
  statusDrops : UInt64 := 0
  deriving DecidableEq, Repr, Inhabited

def Tally.snapshot (tally : Tally) (state : WorkerState) : Diagnostics where
  workerState := some state
  iterations := .ofNat tally.iterations
  idleWaits := .ofNat tally.idleWaits
  readsOk := .ofNat tally.readsOk
  readErrors := .ofNat tally.readErrors
  bytesRead := .ofNat tally.bytesRead
  bytesPublished := .ofNat tally.bytesPublished
  shortWrites := .ofNat tally.shortWrites
  bytesDropped := .ofNat tally.bytesDropped
  statusPublished := .ofNat tally.statusPublished
  statusDrops := .ofNat tally.statusDrops

end AudioCapture
