/-!
# Results and read outcomes

The result codes that travel beside the captured bytes, and the record that the capture thread
publishes for every read of the device.
-/

namespace AudioCapture

inductive ResultCode where
  | ok
  | notInitialized
  | invalidArguments
  | invalidState
  | notSupported
  | io
  deriving DecidableEq, Repr, Inhabited

namespace ResultCode

/-- The number that stands for a code in shared memory. -/
def number : ResultCode → Nat
  | ok => 0
  | notInitialized => 1
  | invalidArguments => 2
  | invalidState => 3
  | notSupported => 4
  | io => 5

def isOk (code : ResultCode) : Bool := code == ok

def name : ResultCode → String
  | ok => "Ok"
  | notInitialized => "NotInitialized"
  | invalidArguments => "InvalidArguments"
  | invalidState => "InvalidState"
  | notSupported => "NotSupported"
  | io => "Io"

end ResultCode

/-- What one read of the device came to. `transferred` is the count that the device reported,
which may be more than what fitted into the transport. -/
structure ReadOutcome where
  result : ResultCode := .ok
  transferred : UInt64 := 0
  deriving DecidableEq, Repr, Inhabited

namespace ReadOutcome

def ok (transferred : UInt64) : ReadOutcome := ⟨.ok, transferred⟩

def failed (result : ResultCode) : ReadOutcome := ⟨result, 0⟩

def isOk (outcome : ReadOutcome) : Bool := outcome.result.isOk

def text (outcome : ReadOutcome) : String :=
  s!"ReadOutcome \x7b result: {outcome.result.name}, transferred: {outcome.transferred} \x7d"

end ReadOutcome

end AudioCapture
