import AudioCapture.Failure
import AudioCapture.Ring.Basic

/-!
# Ring layout

How a ring lies in memory: a header of 32 bytes, padding up to the alignment of the elements, and
the slots. The size is worked out in 64-bit words, with every step checked, and the whole must not
be longer than half of the address space; then the system has to map it.

* `extent?_eq_some_iff`: the size that comes out is the one in unbounded numbers;
* `make_eq_ok_iff`: the rings that come out are empty and have the capacity asked for.
-/

namespace AudioCapture

/-- The size and the alignment of an element. -/
structure ElementLayout where
  size : Nat
  alignment : Nat
  deriving DecidableEq, Repr

/-- What a process is granted: which sizes can be mapped, and whether a thread can be started. -/
structure Host where
  maps : Nat → Bool := fun bytes => decide (bytes < 140737488355328)
  startsThreads : Bool := true

namespace Ring

def headerSize : Nat := 32

/-- Why a ring cannot be made. -/
inductive Fault where
  | capacityZero
  | elementWithoutSize
  | overflows (capacity : Nat)
  | unmapped (bytes : Nat)
  deriving DecidableEq, Repr

def Fault.message : Fault → String
  | capacityZero => "queue capacity must be positive"
  | elementWithoutSize => "queue element type has no size"
  | overflows capacity => s!"queue capacity {capacity} overflows"
  | unmapped bytes => s!"failed to map {bytes} bytes: Cannot allocate memory (os error 12)"

def Fault.failure (fault : Fault) : Failure := .invalidArguments fault.message

/-- A product of 64-bit words that is one. -/
def checkedMul (a b : Nat) : Option Nat := if a * b < UInt64.size then some (a * b) else none

/-- A sum of 64-bit words that is one. -/
def checkedAdd (a b : Nat) : Option Nat := if a + b < UInt64.size then some (a + b) else none

end Ring

namespace ElementLayout

/-- Where the slots start: the header, rounded up to the alignment by clearing the bits below it. -/
def offset (layout : ElementLayout) : Nat :=
  let alignment : UInt64 := .ofNat layout.alignment
  ((.ofNat Ring.headerSize + alignment - 1) &&& ~~~(alignment - 1)).toNat

/-- The bytes a ring takes, unless they are too many. -/
def extent? (layout : ElementLayout) (capacity : Nat) : Option Nat :=
  match Ring.checkedMul capacity layout.size with
  | none => none
  | some bytes =>
      match Ring.checkedAdd bytes layout.offset with
      | none => none
      | some total => if total ≤ 9223372036854775807 then some total else none

/-- The checks of single steps refuse nothing that the last one would let through. -/
theorem extent?_eq_some_iff {layout : ElementLayout} {capacity bytes : Nat} :
    layout.extent? capacity = some bytes ↔
      bytes = capacity * layout.size + layout.offset ∧ bytes ≤ 9223372036854775807 := by
  unfold extent? Ring.checkedMul Ring.checkedAdd
  by_cases product : capacity * layout.size < UInt64.size
  · by_cases sum : capacity * layout.size + layout.offset < UInt64.size
    · simp only [product, sum, if_true]
      constructor
      · intro h
        split at h
        · cases h
          exact ⟨rfl, ‹_›⟩
        · cases h
      · rintro ⟨rfl, within⟩
        rw [if_pos within]
    · simp only [product, sum, if_true, if_false, reduceCtorEq, false_iff, not_and, Nat.not_le]
      simp only [UInt64.size] at sum
      omega
  · simp only [product, if_false, reduceCtorEq, false_iff, not_and, Nat.not_le]
    simp only [UInt64.size] at product
    omega

end ElementLayout

namespace Ring

variable {α : Type}

/-- An empty ring of a capacity. -/
def make (layout : ElementLayout) (host : Host) (capacity : Nat) : Except Fault (Ring α) :=
  if capacity = 0 then .error .capacityZero
  else if layout.size = 0 then .error .elementWithoutSize
  else
    match layout.extent? capacity with
    | none => .error (.overflows capacity)
    | some bytes => if host.maps bytes then .ok (.empty capacity) else .error (.unmapped bytes)

theorem make_eq_ok_iff {layout : ElementLayout} {host : Host} {capacity : Nat} {r : Ring α} :
    make layout host capacity = .ok r ↔ r = .empty capacity ∧ 0 < capacity ∧ 0 < layout.size ∧
      ∃ bytes, layout.extent? capacity = some bytes ∧ host.maps bytes = true := by
  unfold make
  by_cases zero : capacity = 0
  · simp [zero]
  by_cases flat : layout.size = 0
  · simp [zero, flat]
  have positive : 0 < capacity ∧ 0 < layout.size :=
    ⟨Nat.pos_of_ne_zero zero, Nat.pos_of_ne_zero flat⟩
  rw [if_neg zero, if_neg flat]
  cases layout.extent? capacity with
  | none => simp
  | some bytes =>
    cases maps : host.maps bytes with
    | false => simp [maps]
    | true =>
      simp only [maps, if_true, Except.ok.injEq, positive, Option.some.injEq,
        exists_eq_left', and_true]
      exact eq_comm

end Ring

end AudioCapture
