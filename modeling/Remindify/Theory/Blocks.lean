/-
# Theory.Blocks -- consecutive blocks of given lengths

Positions counted through a list of blocks: `locate` finds the block a position is in
and the place within it, `start` is the position a block begins at.

* `start_add_locate`, `locate_start_add`: the two are inverse;
* `locate_fst_lt`, `locate_snd_lt`: what is located exists.
-/
import Mathlib.Algebra.GroupWithZero.Nat

namespace Remindify.Theory.Blocks

set_option autoImplicit false

def locate : List Nat → Nat → Nat × Nat
  | [], n => (0, n)
  | length :: rest, n =>
      if n < length then (0, n)
      else ((locate rest (n - length)).1 + 1, (locate rest (n - length)).2)

def start : List Nat → Nat → Nat
  | [], _ => 0
  | _ :: _, 0 => 0
  | length :: rest, block + 1 => length + start rest block

variable {lengths : List Nat} {n : Nat}

theorem locate_fst_lt (inside : n < lengths.sum) : (locate lengths n).1 < lengths.length := by
  induction lengths generalizing n with
  | nil => simp at inside
  | cons length rest ih =>
      rw [List.sum_cons] at inside
      unfold locate
      split
      · simp
      · have later := ih (show n - length < rest.sum by omega)
        simpa using later

theorem locate_snd_lt (inside : n < lengths.sum) :
    ∃ length, lengths[(locate lengths n).1]? = some length ∧ (locate lengths n).2 < length := by
  induction lengths generalizing n with
  | nil => simp at inside
  | cons length rest ih =>
      rw [List.sum_cons] at inside
      unfold locate
      split
      · rename_i here
        exact ⟨length, rfl, here⟩
      · obtain ⟨found, at_, below⟩ := ih (show n - length < rest.sum by omega)
        exact ⟨found, by simpa using at_, below⟩

/-- **A position is where its block begins, and the place within.** -/
theorem start_add_locate (inside : n < lengths.sum) :
    start lengths (locate lengths n).1 + (locate lengths n).2 = n := by
  induction lengths generalizing n with
  | nil => simp at inside
  | cons length rest ih =>
      rw [List.sum_cons] at inside
      unfold locate
      split
      · simp [start]
      · have later := ih (show n - length < rest.sum by omega)
        simp only [start]
        omega

/-- **A place within a block is located there.** -/
theorem locate_start_add {block length i : Nat} (at_ : lengths[block]? = some length)
    (below : i < length) : locate lengths (start lengths block + i) = (block, i) := by
  induction lengths generalizing block with
  | nil => simp at at_
  | cons first rest ih =>
      cases block with
      | zero =>
          obtain rfl : first = length := by simpa using at_
          simp [locate, start, below]
      | succ block =>
          have later := ih (show rest[block]? = some length by simpa using at_)
          have past : ¬ first + start rest block + i < first := by omega
          have shift : first + start rest block + i - first = start rest block + i := by omega
          simp only [locate, start, past, if_false, shift, later]

theorem start_add_lt {block length i : Nat} (at_ : lengths[block]? = some length)
    (below : i < length) : start lengths block + i < lengths.sum := by
  induction lengths generalizing block with
  | nil => simp at at_
  | cons first rest ih =>
      rw [List.sum_cons]
      cases block with
      | zero =>
          obtain rfl : first = length := by simpa using at_
          simp only [start]
          omega
      | succ block =>
          have later := ih (show rest[block]? = some length by simpa using at_)
          simp only [start]
          omega

end Remindify.Theory.Blocks
