/-!
# Durations

Lengths of time in whole nanoseconds whose whole seconds are a 64-bit number, and their text: the
largest of the units s, ms, µs and ns that leaves a whole part, then the decimals that are left.

* `scale_eq_some_iff`: a multiple exists exactly when its seconds still fit.
-/

namespace AudioCapture

structure Duration where
  nanoseconds : Nat
  deriving DecidableEq, Repr

namespace Duration

def nanosecondsPerSecond : Nat := 1000000000

def ofMilliseconds (count : Nat) : Duration := ⟨count * 1000000⟩

def seconds (d : Duration) : Nat := d.nanoseconds / nanosecondsPerSecond

/-- What is left beside the whole seconds. -/
def subsecond (d : Duration) : Nat := d.nanoseconds % nanosecondsPerSecond

def Representable (d : Duration) : Prop := d.seconds < UInt64.size

instance (d : Duration) : Decidable d.Representable :=
  inferInstanceAs (Decidable (_ < _))

def plus (d e : Duration) : Duration := ⟨d.nanoseconds + e.nanoseconds⟩

/-- The multiple by a whole number, unless its seconds leave the 64 bits. -/
def scale (d : Duration) (factor : Nat) : Option Duration :=
  if Representable ⟨d.nanoseconds * factor⟩ then some ⟨d.nanoseconds * factor⟩ else none

theorem scale_eq_some_iff {d e : Duration} {factor : Nat} :
    d.scale factor = some e ↔ e = ⟨d.nanoseconds * factor⟩ ∧ e.Representable := by
  unfold scale
  constructor
  · intro h
    split at h
    · rename_i fits
      cases h
      exact ⟨rfl, fits⟩
    · cases h
  · rintro ⟨rfl, fits⟩
    simp [fits]

/-- The decimals of `part` out of a unit of `10 ^ places`, without the zeros they end with. -/
def decimals (places part : Nat) : List Char :=
  let digits := Nat.toDigits 10 part
  let padded := List.replicate (places - digits.length) '0' ++ digits
  (padded.reverse.dropWhile (· == '0')).reverse

def inUnit (whole places part : Nat) (unit : String) : String :=
  if part = 0 then toString whole ++ unit
  else toString whole ++ "." ++ String.ofList (decimals places part) ++ unit

def text (d : Duration) : String :=
  let rest := d.subsecond
  if 0 < d.seconds then inUnit d.seconds 9 rest "s"
  else if 1000000 ≤ rest then inUnit (rest / 1000000) 6 (rest % 1000000) "ms"
  else if 1000 ≤ rest then inUnit (rest / 1000) 3 (rest % 1000) "µs"
  else inUnit rest 0 0 "ns"

end Duration

end AudioCapture
