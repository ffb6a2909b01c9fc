/-!
# Breakdowns

What makes a call break down instead of failing: a number that its word cannot hold, where nothing
is prepared for one.
-/

namespace AudioCapture

inductive Breakdown where
  /-- The level asked for lies too far above the lowest one of the system. -/
  | levelOverflow
  /-- The time to wait for the capture thread is longer than a duration can be. -/
  | timeoutOverflow
  /-- The time to wait for the capture thread ends later than the clock can show. -/
  | deadlineOverflow
  deriving DecidableEq, Repr

def Breakdown.message : Breakdown → String
  | levelOverflow => "attempt to add with overflow"
  | timeoutOverflow => "overflow when multiplying duration by scalar"
  | deadlineOverflow => "overflow when adding duration to instant"

end AudioCapture
