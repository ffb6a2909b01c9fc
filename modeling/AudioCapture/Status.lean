import AudioCapture.Failure

/-!
# Device status

The status number an audio source answers a call with: zero for success, and the negative of an
error number of the system otherwise.

* `toFailure_code_ne_ok`: whatever the number, a failed call is never reported as success.
-/

namespace AudioCapture

structure DeviceStatus where
  number : Int
  deriving DecidableEq, Repr

namespace DeviceStatus

def ok : DeviceStatus := ⟨0⟩
def io : DeviceStatus := ⟨-5⟩
def wouldBlock : DeviceStatus := ⟨-11⟩
def noDevice : DeviceStatus := ⟨-19⟩
def invalidArgument : DeviceStatus := ⟨-22⟩
def notImplemented : DeviceStatus := ⟨-38⟩
def noData : DeviceStatus := ⟨-61⟩

/-- The statuses that have a name of their own. -/
def names : List (DeviceStatus × String) :=
  [(ok, "OK"), (io, "EIO"), (wouldBlock, "EAGAIN"), (noDevice, "ENODEV"),
    (invalidArgument, "EINVAL"), (notImplemented, "ENOSYS"), (noData, "ENODATA")]

def text (status : DeviceStatus) : String :=
  match names.lookup status with
  | some name => s!"{name} ({status.number})"
  | none => s!"status {status.number}"

/-- How a device call that answered with `status` is reported by the session. -/
def toFailure (status : DeviceStatus) (operation : String) : Failure :=
  if status = invalidArgument then .invalidArguments (operation ++ " rejected arguments")
  else if status = noData then .invalidState (operation ++ " has no data in current state")
  else if status = noDevice then .notInitialized
  else if status = notImplemented then .notSupported
  else .device operation status.number

theorem toFailure_code_ne_ok (status : DeviceStatus) (operation : String) :
    (status.toFailure operation).code ≠ .ok :=
  Failure.code_ne_ok _

end DeviceStatus

end AudioCapture
