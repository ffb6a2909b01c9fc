/-!
# Slots

What the slots of a ring hold, place by place. Whole stretches are stored at once, by a function
that gives the item of each place, and a stretch is only divided where a later one cuts it; the
divisions halve, so a place is found in few steps.

* `get_fill`: a stretch holds what was stored last, and the places outside it are left alone.
-/

namespace AudioCapture

inductive Slots (α : Type) where
  | flat (item : Nat → Option α)
  /-- What the places below `middle` hold, and the others. -/
  | split (middle : Nat) (low high : Slots α)

namespace Slots

variable {α : Type}

def empty : Slots α := .flat fun _ => none

def get : Slots α → Nat → Option α
  | flat item, place => item place
  | split middle low high, place =>
      if place < middle then low.get place else high.get place

/-- Stores the items that `fresh` gives in the places from `first` up to `last`, as far as they lie
between `bottom` and `top`. What is left after all the halvings is stored as one stretch. -/
def fillBetween (fresh : Nat → Option α) (first last : Nat) :
    Nat → Nat → Nat → Slots α → Slots α
  | 0, _, _, s =>
      .flat fun place => if first ≤ place ∧ place < last then fresh place else s.get place
  | halvings + 1, bottom, top, s =>
      if top ≤ first ∨ last ≤ bottom then s
      else if first ≤ bottom ∧ top ≤ last then .flat fresh
      else
        match s with
        | flat item =>
            let middle := (bottom + top) / 2
            .split middle (fillBetween fresh first last halvings bottom middle (.flat item))
              (fillBetween fresh first last halvings middle top (.flat item))
        | split middle low high =>
            .split middle (fillBetween fresh first last halvings bottom middle low)
              (fillBetween fresh first last halvings middle top high)

/-- Stores the items that `fresh` gives in the places from `first` up to `last`, of so many slots
in all. -/
def fill (s : Slots α) (size first last : Nat) (fresh : Nat → Option α) : Slots α :=
  fillBetween fresh first last 64 0 size s

theorem get_fillBetween (fresh : Nat → Option α) (first last halvings bottom top : Nat)
    (s : Slots α) {place : Nat} (above : bottom ≤ place) (below : place < top) :
    (fillBetween fresh first last halvings bottom top s).get place =
      if first ≤ place ∧ place < last then fresh place else s.get place := by
  induction halvings generalizing bottom top s with
  | zero => rfl
  | succ halvings ih =>
    unfold fillBetween
    split
    · rename_i apart
      rw [if_neg (by omega)]
    split
    · rename_i covered
      rw [if_pos (by omega)]
      rfl
    cases s with
    | flat item =>
      by_cases lower : place < (bottom + top) / 2
      · simp only [get, if_pos lower, ih _ _ _ above lower]
      · simp only [get, if_neg lower, ih _ _ _ (Nat.le_of_not_lt lower) below]
    | split middle low high =>
      by_cases lower : place < middle
      · simp only [get, if_pos lower, ih _ _ _ above lower]
      · simp only [get, if_neg lower, ih _ _ _ (Nat.le_of_not_lt lower) below]

theorem get_fill (s : Slots α) {size place : Nat} (inside : place < size) (first last : Nat)
    (fresh : Nat → Option α) :
    (s.fill size first last fresh).get place =
      if first ≤ place ∧ place < last then fresh place else s.get place :=
  get_fillBetween _ _ _ _ _ _ _ (Nat.zero_le _) inside

end Slots

end AudioCapture
