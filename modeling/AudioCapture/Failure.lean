import AudioCapture.Outcome

/-!
# Failures of control calls

What a control call on a session can fail with, the words it is reported in, and the result code
that stands for it.

* `code_ne_ok`: no failure has the code of success.
-/

namespace AudioCapture

inductive Failure where
  | invalidArguments (why : String)
  | invalidState (why : String)
  | notSupported
  | notInitialized
  | device (operation : String) (status : Int)
  deriving DecidableEq, Repr

namespace Failure

def alreadyPrepared : Failure := .invalidState "transport already prepared"

def closed : Failure := .invalidState "session is closed"

def message : Failure → String
  | invalidArguments why => "invalid arguments: " ++ why
  | invalidState why => "invalid state: " ++ why
  | notSupported => "not supported"
  | notInitialized => "device not initialized"
  | device operation status => s!"{operation} failed with device status {status}"

def code : Failure → ResultCode
  | invalidArguments _ => .invalidArguments
  | invalidState _ => .invalidState
  | notSupported => .notSupported
  | notInitialized => .notInitialized
  | device _ _ => .io

theorem code_ne_ok (failure : Failure) : failure.code ≠ .ok := by
  cases failure <;> simp [code]

end Failure

end AudioCapture
