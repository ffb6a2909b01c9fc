import Mathlib.Algebra.Group.Nat.Defs
import AudioCapture.Proofs.Ring.Contents
import AudioCapture.Ring.Layout

/-!
# Where the slots of a ring lie

The size of a ring is worked out in words, by clearing bits and in checked steps. What comes out is
what unbounded numbers give, so a ring is refused exactly when its size is too large or the system
does not map it, and the slots of one that is made lie in its mapping (`make_exact`).

* `Regular.offset_least` — the slots start at the first multiple of the alignment behind the header;
* `Refuses.make_eq`, `refuses_of_make_eq` — why a ring is refused;
* `Regular.places` — the slots are aligned, in the mapping, and apart.
-/

namespace AudioCapture

/-- To clear the low bits of a word is to round it down. -/
theorem toNat_and_not_mask (x : UInt64) {k : Nat} (h : k < 64) :
    (x &&& ~~~(.ofNat (2 ^ k) - 1)).toNat = x.toNat / 2 ^ k * 2 ^ k := by
  have small : 2 ^ k < 2 ^ 64 := Nat.pow_lt_pow_right (by decide) h
  have power : (UInt64.ofNat (2 ^ k)).toNat = 2 ^ k := UInt64.toNat_ofNat_of_lt' small
  have one : (1 : UInt64) ≤ .ofNat (2 ^ k) := by
    rw [UInt64.le_iff_toNat_le, power]
    exact Nat.one_le_two_pow
  have mask : (~~~(UInt64.ofNat (2 ^ k) - 1)).toNat = 2 ^ 64 - (2 ^ k - 1 + 1) := by
    rw [UInt64.toNat_not, UInt64.toNat_sub_of_le _ _ one, power]
    show 2 ^ 64 - 1 - (2 ^ k - 1) = _
    omega
  rw [UInt64.toNat_and, mask]
  apply Nat.eq_of_testBit_eq
  intro i
  rw [Nat.testBit_and, Nat.testBit_two_pow_sub_succ (by omega), Nat.testBit_two_pow_sub_one,
    Nat.testBit_mul_two_pow, Nat.testBit_div_two_pow]
  -- the bits below `k` are cleared, and a word has none from 64 on
  by_cases high : i < 64
  · by_cases below : i < k
    · simp [below, Nat.not_le.2 below]
    · simp [high, below, Nat.not_lt.1 below]
  · have beyond : 2 ^ 64 ≤ 2 ^ i := Nat.pow_le_pow_right (by decide) (Nat.not_lt.1 high)
    have none : x.toNat.testBit i = false :=
      Nat.testBit_lt_two_pow (Nat.lt_of_lt_of_le x.toNat_lt beyond)
    have above : k ≤ i := by omega
    simp [high, none, above]

/-! ## Layouts -/

/-- The mappings of the system start at multiples of this. -/
def pageSize : Nat := 4096

namespace ElementLayout

/-- The alignment is a power of two no larger than a page, and the size is a multiple of it. -/
structure Regular (layout : ElementLayout) : Prop where
  power : ∃ k ≤ 12, layout.alignment = 2 ^ k
  multiple : layout.alignment ∣ layout.size

/-- Where the slot of a place starts in the mapping. -/
def slotStart (layout : ElementLayout) (place : Nat) : Nat := layout.offset + place * layout.size

/-- The slots of so many places lie in a mapping of a number of bytes: each is aligned in every
mapping that starts a page, behind the header and within the mapping, and ends before the next. -/
structure Places (layout : ElementLayout) (capacity bytes : Nat) : Prop where
  aligned : ∀ base place, pageSize ∣ base → layout.alignment ∣ base + layout.slotStart place
  behind : ∀ place, Ring.headerSize ≤ layout.slotStart place
  within : ∀ place < capacity, layout.slotStart place + layout.size ≤ bytes
  apart : ∀ first second, first < second →
    layout.slotStart first + layout.size ≤ layout.slotStart second

variable {layout : ElementLayout}

theorem Regular.alignment_pos (h : layout.Regular) : 0 < layout.alignment := by
  obtain ⟨k, -, power⟩ := h.power
  rw [power]
  exact Nat.two_pow_pos k

theorem Regular.alignment_dvd_page (h : layout.Regular) : layout.alignment ∣ pageSize := by
  obtain ⟨k, within, power⟩ := h.power
  rw [power]
  exact Nat.pow_dvd_pow 2 within

/-- The words of the rounding do not overflow. -/
theorem Regular.offset_eq (h : layout.Regular) :
    layout.offset =
      (Ring.headerSize + (layout.alignment - 1)) / layout.alignment * layout.alignment := by
  obtain ⟨k, within, power⟩ := h.power
  have positive : 0 < 2 ^ k := Nat.two_pow_pos k
  have page : 2 ^ k ≤ 2 ^ 12 := Nat.pow_le_pow_right (by decide) within
  have word : (UInt64.ofNat (2 ^ k)).toNat = 2 ^ k := UInt64.toNat_ofNat_of_lt' (by
    show 2 ^ k < 2 ^ 64
    omega)
  have header : (UInt64.ofNat Ring.headerSize).toNat = Ring.headerSize := rfl
  have total : (UInt64.ofNat Ring.headerSize + .ofNat (2 ^ k)).toNat =
      Ring.headerSize + 2 ^ k := by
    rw [UInt64.toNat_add, word, header]
    apply Nat.mod_eq_of_lt
    simp only [Ring.headerSize]
    omega
  have padded : (UInt64.ofNat Ring.headerSize + .ofNat (2 ^ k) - 1).toNat =
      Ring.headerSize + (2 ^ k - 1) := by
    rw [UInt64.toNat_sub_of_le, total]
    · exact Nat.add_sub_assoc positive _
    · rw [UInt64.le_iff_toNat_le, total]
      exact Nat.le_trans positive (Nat.le_add_left _ _)
  simp only [offset, power]
  rw [toNat_and_not_mask _ (by omega), padded]

theorem Regular.offset_least (h : layout.Regular) :
    layout.alignment ∣ layout.offset ∧ Ring.headerSize ≤ layout.offset ∧
      ∀ start, layout.alignment ∣ start → Ring.headerSize ≤ start → layout.offset ≤ start := by
  have positive := h.alignment_pos
  rw [h.offset_eq]
  refine ⟨Nat.dvd_mul_left _ _, ?_, ?_⟩
  · -- less than one alignment is lost in rounding down
    have rest := Nat.mod_lt (Ring.headerSize + (layout.alignment - 1)) positive
    have whole := Nat.div_add_mod' (Ring.headerSize + (layout.alignment - 1)) layout.alignment
    omega
  · rintro start ⟨times, rfl⟩ enough
    rw [Nat.mul_comm layout.alignment times] at enough ⊢
    apply Nat.mul_le_mul_right
    apply Nat.le_of_lt_succ
    rw [Nat.div_lt_iff_lt_mul positive, Nat.succ_mul]
    omega

theorem Regular.places (h : layout.Regular) (capacity : Nat) :
    layout.Places capacity (layout.offset + capacity * layout.size) := by
  obtain ⟨aligned, behind, -⟩ := h.offset_least
  refine ⟨?_, ?_, ?_, ?_⟩
  · intro base place page
    have start : layout.alignment ∣ layout.slotStart place :=
      Nat.dvd_add aligned (Nat.dvd_mul_left_of_dvd h.multiple place)
    exact Nat.dvd_add (Nat.dvd_trans h.alignment_dvd_page page) start
  · intro place
    exact Nat.le_trans behind (Nat.le_add_right _ _)
  · intro place below
    have last : (place + 1) * layout.size ≤ capacity * layout.size :=
      Nat.mul_le_mul_right _ below
    rw [Nat.succ_mul] at last
    unfold slotStart
    omega
  · intro first second before
    have next : (first + 1) * layout.size ≤ second * layout.size := Nat.mul_le_mul_right _ before
    rw [Nat.succ_mul] at next
    unfold slotStart
    omega

end ElementLayout

/-! ## Rings -/

namespace Ring

variable {α : Type} {layout : ElementLayout} {host : Host} {capacity : Nat}

/-- Why a ring is refused, in the order in which the causes are looked for; the size is that in
unbounded numbers. -/
inductive Refuses (layout : ElementLayout) (host : Host) (capacity : Nat) : Fault → Prop
  | capacityZero : capacity = 0 → Refuses layout host capacity .capacityZero
  | elementWithoutSize : 0 < capacity → layout.size = 0 →
      Refuses layout host capacity .elementWithoutSize
  | overflows : 0 < capacity → 0 < layout.size →
      9223372036854775807 < layout.offset + capacity * layout.size →
      Refuses layout host capacity (.overflows capacity)
  | unmapped : 0 < capacity → 0 < layout.size →
      layout.offset + capacity * layout.size ≤ 9223372036854775807 →
      host.maps (layout.offset + capacity * layout.size) = false →
      Refuses layout host capacity (.unmapped (layout.offset + capacity * layout.size))

theorem extent?_of_le (within : layout.offset + capacity * layout.size ≤ 9223372036854775807) :
    layout.extent? capacity = some (layout.offset + capacity * layout.size) :=
  ElementLayout.extent?_eq_some_iff.2 ⟨Nat.add_comm _ _, within⟩

theorem extent?_of_lt (large : 9223372036854775807 < layout.offset + capacity * layout.size) :
    layout.extent? capacity = none := by
  rw [Option.eq_none_iff_forall_ne_some]
  intro bytes same
  obtain ⟨rfl, within⟩ := ElementLayout.extent?_eq_some_iff.1 same
  omega

theorem Refuses.make_eq {fault : Fault} (h : Refuses layout host capacity fault) :
    (make layout host capacity : Except Fault (Ring α)) = .error fault := by
  cases h with
  | capacityZero zero => simp [make, zero]
  | elementWithoutSize positive flat => simp [make, Nat.ne_of_gt positive, flat]
  | overflows positive sized large =>
    simp [make, Nat.ne_of_gt positive, Nat.ne_of_gt sized, extent?_of_lt large]
  | unmapped positive sized within unmapped =>
    simp [make, Nat.ne_of_gt positive, Nat.ne_of_gt sized, extent?_of_le within, unmapped]

theorem refuses_of_make_eq {fault : Fault}
    (h : (make layout host capacity : Except Fault (Ring α)) = .error fault) :
    Refuses layout host capacity fault := by
  rcases Nat.eq_zero_or_pos capacity with zero | positive
  · rw [(Refuses.capacityZero zero).make_eq] at h
    cases h
    exact .capacityZero zero
  rcases Nat.eq_zero_or_pos layout.size with flat | sized
  · rw [(Refuses.elementWithoutSize positive flat).make_eq] at h
    cases h
    exact .elementWithoutSize positive flat
  rcases Nat.lt_or_ge 9223372036854775807 (layout.offset + capacity * layout.size) with
    large | within
  · rw [(Refuses.overflows positive sized large).make_eq] at h
    cases h
    exact .overflows positive sized large
  cases maps : host.maps (layout.offset + capacity * layout.size) with
  | true =>
    rw [make_eq_ok_iff.2 ⟨rfl, positive, sized, _, extent?_of_le within, maps⟩] at h
    cases h
  | false =>
    rw [(Refuses.unmapped positive sized within maps).make_eq] at h
    cases h
    exact .unmapped positive sized within maps

theorem refuses_iff : (∃ fault, Refuses layout host capacity fault) ↔
    capacity = 0 ∨ layout.size = 0 ∨
      9223372036854775807 < layout.offset + capacity * layout.size ∨
      host.maps (layout.offset + capacity * layout.size) = false := by
  constructor
  · rintro ⟨fault, cause⟩
    cases cause with
    | capacityZero zero => exact .inl zero
    | elementWithoutSize positive flat => exact .inr (.inl flat)
    | overflows positive sized large => exact .inr (.inr (.inl large))
    | unmapped positive sized within unmapped => exact .inr (.inr (.inr unmapped))
  · -- the first cause that applies is the one that is found
    intro causes
    by_cases zero : capacity = 0
    · exact ⟨_, .capacityZero zero⟩
    have positive := Nat.pos_of_ne_zero zero
    by_cases flat : layout.size = 0
    · exact ⟨_, .elementWithoutSize positive flat⟩
    have sized := Nat.pos_of_ne_zero flat
    by_cases large : 9223372036854775807 < layout.offset + capacity * layout.size
    · exact ⟨_, .overflows positive sized large⟩
    rcases causes with none | none | excess | unmapped
    · exact absurd none zero
    · exact absurd none flat
    · exact absurd excess large
    · exact ⟨_, .unmapped positive sized (Nat.not_lt.1 large) unmapped⟩

/-- The system is asked for the exact size, if it is asked at all. -/
theorem make_congr {other : Host} (same : other.maps (layout.offset + capacity * layout.size) =
    host.maps (layout.offset + capacity * layout.size)) :
    (make layout other capacity : Except Fault (Ring α)) = make layout host capacity := by
  cases extent : layout.extent? capacity with
  | none => simp only [make, extent]
  | some total =>
    obtain ⟨rfl, -⟩ := ElementLayout.extent?_eq_some_iff.1 extent
    rw [Nat.add_comm] at same
    simp only [make, extent, same]

/-! ## All of it -/

/-- **Sizes**: for every capacity and every layout the slots start at the first multiple of the
alignment behind the header. A ring is refused exactly if it would have no slot or elements without
a size, if it would take more than half of the address space, or if the system does not map it, and
which of these it is; the size is the exact one. A ring that is made is empty, the system has mapped
exactly as many bytes as it takes and was asked for nothing else, and its slots lie aligned and
apart in the mapping, behind the header. -/
theorem make_exact (regular : layout.Regular) (host : Host) (capacity : UInt64) :
    let bytes := layout.offset + capacity.toNat * layout.size
    let made : Except Fault (Ring α) := make layout host capacity.toNat
    (layout.alignment ∣ layout.offset ∧ 32 ≤ layout.offset ∧
        ∀ start, layout.alignment ∣ start → 32 ≤ start → layout.offset ≤ start) ∧
      ((∃ fault, made = .error fault) ↔
        capacity = 0 ∨ layout.size = 0 ∨ 2 ^ 63 - 1 < bytes ∨ host.maps bytes = false) ∧
      (∀ fault, (made = .error fault ↔ Refuses layout host capacity.toNat fault) ∧
        fault.failure = .invalidArguments fault.message) ∧
      (∀ other : Host, other.maps bytes = host.maps bytes →
        make layout other capacity.toNat = made) ∧
      ∀ r, made = .ok r → layout.extent? capacity.toNat = some bytes ∧ host.maps bytes = true ∧
        layout.Places capacity.toNat bytes ∧ r.capacity = capacity.toNat ∧
        (∀ count, r.index count < capacity.toNat) ∧ r.contents = [] ∧ r.readable = 0 ∧
        r.free = capacity.toNat := by
  intro bytes made
  have refused : ∀ fault, made = .error fault ↔ Refuses layout host capacity.toNat fault :=
    fun fault => ⟨refuses_of_make_eq, Refuses.make_eq⟩
  refine ⟨regular.offset_least, ?_, fun fault => ⟨refused fault, rfl⟩, ?_, ?_⟩
  · rw [exists_congr refused, refuses_iff]
    have zero : capacity.toNat = 0 ↔ capacity = 0 := UInt64.toNat_inj (b := 0)
    exact or_congr_left zero
  · intro other same
    exact make_congr same
  · intro r ok
    obtain ⟨rfl, positive, -, total, extent, maps⟩ := make_eq_ok_iff.1 ok
    obtain ⟨rfl, within⟩ := ElementLayout.extent?_eq_some_iff.1 extent
    rw [Nat.add_comm] at extent maps
    refine ⟨extent, maps, regular.places _, rfl, ?_, rfl, ?_, ?_⟩
    · intro count
      exact Nat.mod_lt count positive
    · exact Nat.zero_min _
    · rfl

/-- The largest ring of wide elements that can be addressed, and the next one. -/
theorem make_exact_largest :
    let wide : ElementLayout := ⟨64, 64⟩
    let host : Host := { maps := fun _ => true }
    wide.Regular ∧
      (∃ r : Ring Nat, make wide host 144115188075855870 = .ok r ∧
        wide.Places 144115188075855870 9223372036854775744 ∧ r.free = 144115188075855870) ∧
      (make wide host 144115188075855871 : Except Fault (Ring Nat)) =
        .error (.overflows 144115188075855871) := by
  intro wide host
  have regular : wide.Regular := ⟨⟨6, by decide, rfl⟩, ⟨1, rfl⟩⟩
  obtain ⟨-, -, -, -, makes⟩ := make_exact (α := Nat) regular host 144115188075855870
  obtain ⟨-, -, refuses, -⟩ := make_exact (α := Nat) regular host 144115188075855871
  have extent : wide.extent? 144115188075855870 = some 9223372036854775744 :=
    ElementLayout.extent?_eq_some_iff.2 ⟨by decide, by decide⟩
  have made : (make wide host 144115188075855870 : Except Fault (Ring Nat)) =
      .ok (.empty 144115188075855870) :=
    make_eq_ok_iff.2 ⟨rfl, by decide, by decide, _, extent, rfl⟩
  have bytes : wide.offset + 144115188075855870 * wide.size = 9223372036854775744 := by decide
  obtain ⟨-, -, places, -, -, -, -, free⟩ := makes _ made
  change wide.Places 144115188075855870 (wide.offset + 144115188075855870 * wide.size) at places
  rw [bytes] at places
  refine ⟨regular, ⟨_, made, places, free⟩, (refuses _).1.2 (.overflows ?_ ?_ ?_)⟩
  all_goals decide

end Ring

end AudioCapture
