import AudioCapture.Priority

/-!
# Levels of priorities

A hint asks for a level some way above the lowest one of the system. The sum is made in one word
and only then brought into the range of the system, so a request breaks down exactly where the sum
is no word (`request_at_level`): the range comes too late to mend it (`level_overflows`).

* `level?_mono` — a hint that asks for more never stands for less;
* `request_of_isWord`, `request_of_not_isWord` — what the system is asked, and when it is not.
-/

namespace AudioCapture

/-- The level of a range that is nearest to a number. -/
def FifoRange.nearest (range : FifoRange) (number : Int) : Int :=
  max range.lowest.toInt (min number range.highest.toInt)

namespace FifoLevels

variable {levels other : FifoLevels} {range : FifoRange} {priority wish : ThreadPriority}

/-! ## The level of a hint -/

theorem level?_of_isWord (fits : IsWord (levels.wanted range priority)) :
    levels.level? range priority = some (range.nearest (levels.wanted range priority)) :=
  if_pos fits

theorem level?_of_not_isWord (large : ¬ IsWord (levels.wanted range priority)) :
    levels.level? range priority = none :=
  if_neg large

/-- Nothing is added for the normal priority. -/
theorem isWord_wanted_normal (levels : FifoLevels) (range : FifoRange) :
    IsWord (levels.wanted range .normal) := by
  have low := range.lowest.le_toInt
  have high := range.lowest.toInt_lt
  show -2147483648 ≤ range.lowest.toInt + 0 ∧ range.lowest.toInt + 0 ≤ 2147483647
  omega

theorem level?_mono {level higher : Int} (more : levels.above priority ≤ other.above wish)
    (first : levels.level? range priority = some level)
    (second : other.level? range wish = some higher) : level ≤ higher := by
  obtain ⟨-, rfl⟩ := level?_eq_some_iff.1 first
  obtain ⟨-, rfl⟩ := level?_eq_some_iff.1 second
  have sums : levels.wanted range priority ≤ other.wanted range wish :=
    Int.add_le_add_left (Int32.le_iff_toInt_le.1 more) range.lowest.toInt
  omega

/-! ## Requests -/

section Requests

variable {m : Type → Type} [Monad m] {system : Int → m Int}

/-- The system is asked once, at the level that the hint stands for. -/
theorem request_of_isWord (elevated : priority.isElevated = true)
    (fits : IsWord (levels.wanted range priority)) :
    levels.request range system priority = (do
      let code ← system (range.nearest (levels.wanted range priority))
      return .answered (answer priority code)) := by
  unfold request
  rw [if_pos elevated, level?_of_isWord fits]

theorem request_of_not_isWord (elevated : priority.isElevated = true)
    (large : ¬ IsWord (levels.wanted range priority)) :
    levels.request range system priority = pure (.brokeDown (some .levelOverflow)) := by
  unfold request
  rw [if_pos elevated, level?_of_not_isWord large]

theorem request_of_refusal [LawfulMonad m] (elevated : priority.isElevated = true)
    (fits : IsWord (levels.wanted range priority)) {code : Int} (refuses : code ≠ 0)
    (refusal : ∀ level, system level = pure code) :
    levels.request range system priority =
      pure (.answered (.error (.refused priority code))) := by
  have refused : answer priority code = .error (.refused priority code) := if_neg refuses
  rw [request_of_isWord elevated fits, refusal, pure_bind, refused]

end Requests

/-- **Levels**: a hint stands for the level that lies as far above the lowest one as it asks,
brought into the range, as long as that sum is a word; a hint that asks for more never stands for
less. The normal priority always stands for a level and is granted without asking. For any other
the system is asked once, at its level, and its refusal comes back with the priority and the code.
Where the sum is no word the hint stands for no level: the request breaks down before the system
is asked. -/
theorem request_at_level (levels : FifoLevels) (range : FifoRange) (priority : ThreadPriority) :
    let exact := range.lowest.toInt + (levels.above priority).toInt
    (levels.level? range priority = if IsWord exact then some (range.nearest exact) else none) ∧
      (range.lowest.toInt ≤ range.nearest exact ∧ range.nearest exact ≤ range.highest.toInt) ∧
      (∀ (other : FifoLevels) (wish : ThreadPriority) (level higher : Int),
        levels.above priority ≤ other.above wish → levels.level? range priority = some level →
          other.level? range wish = some higher → level ≤ higher) ∧
      (priority = .normal → IsWord exact) ∧
      ∀ {m : Type → Type} [Monad m] [LawfulMonad m] (system : Int → m Int),
        levels.request range system .normal = pure (.answered (.ok ())) ∧
          (priority.isElevated = true → IsWord exact →
            levels.request range system priority = (do
              let code ← system (range.nearest exact)
              return .answered (answer priority code)) ∧
            ∀ code ≠ 0, (∀ level, system level = pure code) →
              levels.request range system priority =
                pure (.answered (.error (.refused priority code)))) ∧
          (priority.isElevated = true → ¬ IsWord exact →
            levels.request range system priority = pure (.brokeDown (some .levelOverflow))) := by
  intro exact
  refine ⟨rfl, ⟨Int.le_max_left .., Int.max_le.2 ⟨range.lowest_le, Int.min_le_right ..⟩⟩, ?_, ?_,
    ?_⟩
  · intro other wish level higher more first second
    exact level?_mono more first second
  · rintro rfl
    exact levels.isWord_wanted_normal range
  · intro m _ _ system
    refine ⟨rfl, ?_, request_of_not_isWord⟩
    intro elevated fits
    exact ⟨request_of_isWord elevated fits,
      fun code refuses refusal => request_of_refusal elevated fits refuses refusal⟩

/-- The highest sum that is a word, and the next one, on the usual range. -/
theorem request_at_level_edge :
    IsWord (1 + 2147483646) ∧
      FifoLevels.request (m := Id) { urgent := 2147483646 } {} (fun _ => pure notPermitted)
        .urgent = pure (.answered (.error (.refused .urgent notPermitted))) ∧
      ¬ IsWord (1 + 2147483647) ∧
      FifoLevels.request (m := Id) { urgent := 2147483647 } {} (fun _ => pure notPermitted)
        .urgent = pure (.brokeDown (some .levelOverflow)) := by
  obtain ⟨-, -, -, -, within⟩ := request_at_level { urgent := 2147483646 } {} .urgent
  obtain ⟨-, -, -, -, beyond⟩ := request_at_level { urgent := 2147483647 } {} .urgent
  obtain ⟨-, asks, -⟩ := within (m := Id) fun _ => pure notPermitted
  obtain ⟨-, -, breaks⟩ := beyond (m := Id) fun _ => pure notPermitted
  exact ⟨by decide, (asks rfl (by decide)).2 notPermitted (by decide) (fun _ => rfl), by decide,
    breaks rfl (by decide)⟩

/-- A level that is far above the range would be brought down to its end, but the sum is no word:
a request for it breaks down instead of being refused. -/
theorem level_overflows :
    let levels : FifoLevels := { urgent := 2147483647 }
    let range : FifoRange := {}
    range.nearest (range.lowest.toInt + (levels.above .urgent).toInt) = 99 ∧
      levels.level? range .urgent = none ∧
      (Requester.fifo levels).request .urgent = .brokeDown (some .levelOverflow) :=
  ⟨by decide, by decide, rfl⟩

end FifoLevels

end AudioCapture
