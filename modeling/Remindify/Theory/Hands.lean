/-
# Theory.Hands -- the hands of a clock, and dials on a strip of rows

A time is counted in ticks.  A hand moves on one place every `unit` ticks and is back
after `count` places.  `turn` puts a hand at a place by hand: the whole turns of it stay,
and the place is the new one (`turn_ediv_unit`).

A dial with `count` labels can be laid out on a strip of three turns, so that it seems to
go on at both ends: `recentre` leaves a row near an end for the same label a turn away.
-/
import Mathlib.Algebra.Order.Ring.Int
import Mathlib.Tactic.SplitIfs

namespace Remindify.Theory.Hands

set_option autoImplicit false

section Hand

variable (unit count : Int)

def hand (t : Int) : Int := t / unit % count

def turn (place t : Int) : Int := t + unit * (place - hand unit count t)

variable {unit count} {place t : Int}

theorem hand_nonneg (counts : 0 < count) : 0 ≤ hand unit count t :=
  Int.emod_nonneg _ counts.ne'

theorem hand_lt (counts : 0 < count) : hand unit count t < count :=
  Int.emod_lt_of_pos _ counts

/-- The whole turns of the hand, and its place. -/
theorem turn_ediv_unit (units : 0 < unit) :
    turn unit count place t / unit = t / unit / count * count + place := by
  have whole := Int.emod_add_mul_ediv (t / unit) count
  rw [Int.mul_comm] at whole
  rw [turn, Int.add_mul_ediv_left _ _ units.ne', hand]
  omega

end Hand

/-! ## Strips -/

section Strip

def recentre (count row : Nat) : Nat :=
  if row = 1 then row + count
  else if row = count * 3 - 2 then row - count
  else if row > count * 3 - 1 then row - count
  else row

variable {count row : Nat} (two : 2 ≤ count)

include two

theorem recentre_mod : recentre count row % count = row % count := by
  have back : count ≤ row → (row - count) % count = row % count := fun turn =>
    (Nat.mod_eq_sub_mod turn).symm
  unfold recentre
  split_ifs
  · exact Nat.add_mod_right ..
  · exact back (by omega)
  · exact back (by omega)
  · rfl

/-- A row, or one of the two past the end, is brought onto the strip. -/
theorem recentre_lt (near : row ≤ count * 3 + 1) : recentre count row < count * 3 := by
  unfold recentre
  split_ifs <;> omega

end Strip

end Remindify.Theory.Hands
