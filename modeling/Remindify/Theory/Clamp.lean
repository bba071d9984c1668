/-
# Theory.Clamp -- moving a value into a range

`clamp lo hi x` is x where x is in the range, and the nearer end where it is not.

A monotone reading of the values, such as the day a time is in, is not changed by
clamping as soon as one value of the range has the same reading (`reading_clamp`).
-/
import Mathlib.Order.Lattice

namespace Remindify.Theory.Clamp

set_option autoImplicit false

universe u v

variable {α : Type u} [LinearOrder α] {lo hi x : α}

def clamp (lo hi x : α) : α := min (max lo x) hi

/-- The two comparisons, one after the other. -/
theorem ite_eq_clamp :
    (if hi < (if x < lo then lo else x) then hi else if x < lo then lo else x) =
      clamp lo hi x := by
  have low : (if x < lo then lo else x) = max lo x := by
    rcases lt_or_ge x lo with below | above
    · rw [if_pos below, max_eq_left below.le]
    · rw [if_neg (not_lt.2 above), max_eq_right above]
  rw [low, clamp]
  rcases lt_or_ge hi (max lo x) with beyond | within
  · rw [if_pos beyond, min_eq_right beyond.le]
  · rw [if_neg (not_lt.2 within), min_eq_left within]

@[simp] theorem clamp_le : clamp lo hi x ≤ hi := min_le_right ..

theorem le_clamp (range : lo ≤ hi) : lo ≤ clamp lo hi x := le_min (le_max_left ..) range

theorem clamp_of_lt (range : lo ≤ hi) (below : x < lo) : clamp lo hi x = lo := by
  rw [clamp, max_eq_left below.le, min_eq_left range]

theorem clamp_of_gt (range : lo ≤ hi) (beyond : hi < x) : clamp lo hi x = hi := by
  rw [clamp, max_eq_right (range.trans beyond.le), min_eq_right beyond.le]

theorem clamp_of_mem (since : lo ≤ x) (until_ : x ≤ hi) : clamp lo hi x = x := by
  rw [clamp, max_eq_right since, min_eq_left until_]

/-- What is no end of the range was not moved. -/
theorem clamp_eq_self_of_ne (range : lo ≤ hi) (low : clamp lo hi x ≠ lo)
    (high : clamp lo hi x ≠ hi) : clamp lo hi x = x := by
  rcases lt_or_ge x lo with below | since
  · exact absurd (clamp_of_lt range below) low
  · rcases lt_or_ge hi x with beyond | until_
    · exact absurd (clamp_of_gt range beyond) high
    · exact clamp_of_mem since until_

/-- **Clamping keeps a reading the range has.** -/
theorem reading_clamp {β : Type v} [PartialOrder β] {f : α → β} (monotone : Monotone f) {y : α}
    (since : lo ≤ y) (until_ : y ≤ hi) (same : f x = f y) : f (clamp lo hi x) = f y := by
  have range := since.trans until_
  rcases lt_or_ge x lo with below | above
  · rw [clamp_of_lt range below]
    exact le_antisymm (monotone since) (same.symm.trans_le (monotone below.le))
  · rcases lt_or_ge hi x with beyond | within
    · rw [clamp_of_gt range beyond]
      exact le_antisymm ((monotone beyond.le).trans_eq same) (monotone until_)
    · rw [clamp_of_mem above within, same]

end Remindify.Theory.Clamp
