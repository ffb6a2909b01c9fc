import AudioCapture.Duration

/-!
# Session configuration

The limits a session works under, which of them are acceptable, and the times they stand for.

* `fault?_eq_none_iff`: a configuration is acceptable exactly when its three limits are positive.
-/

namespace AudioCapture

structure SessionConfig where
  /-- How long the capture loop waits for a grant before it looks at the stop flag, in ms. -/
  waitTimeoutMs : UInt64 := 1000
  /-- For how many such waits closing a session waits for the capture thread. -/
  joinRetryBound : UInt32 := 3
  /-- The largest transport, in bytes. -/
  maxTransportBytes : UInt64 := 67108864
  /-- Whether starting and stopping reach the device. -/
  mmapMode : Bool := false
  deriving DecidableEq, Repr, Inhabited

/-- What makes a configuration unacceptable. -/
inductive ConfigFault where
  | waitTimeoutZero
  | joinRetryBoundZero
  | maxTransportBytesZero
  deriving DecidableEq, Repr

def ConfigFault.message : ConfigFault → String
  | waitTimeoutZero => "wait timeout must be positive"
  | joinRetryBoundZero => "join retry bound must be positive"
  | maxTransportBytesZero => "max transport size must be positive"

namespace SessionConfig

/-- The first fault of a configuration. -/
def fault? (config : SessionConfig) : Option ConfigFault :=
  if config.waitTimeoutMs = 0 then some .waitTimeoutZero
  else if config.joinRetryBound = 0 then some .joinRetryBoundZero
  else if config.maxTransportBytes = 0 then some .maxTransportBytesZero
  else none

def waitTimeout (config : SessionConfig) : Duration :=
  .ofMilliseconds config.waitTimeoutMs.toNat

/-- How long closing waits for the capture thread; `none` when that is longer than a duration
can be. -/
def joinTimeout? (config : SessionConfig) : Option Duration :=
  config.waitTimeout.scale config.joinRetryBound.toNat

theorem fault?_eq_none_iff (config : SessionConfig) :
    config.fault? = none ↔ config.waitTimeoutMs ≠ 0 ∧ config.joinRetryBound ≠ 0 ∧
      config.maxTransportBytes ≠ 0 := by
  unfold fault?
  repeat' split
  all_goals simp_all

end SessionConfig

end AudioCapture
