/-
# Theory.LastWrite -- loops whose turns overwrite one place

Every turn of a loop either overwrites the same place of the state or leaves the state.
After the loop the place holds what was written last, and nothing else has changed
(`foldl_put`).
-/
import Mathlib.Init

namespace Remindify.Theory.LastWrite

set_option autoImplicit false

universe u v w

variable {S : Type u} {A : Type v} {B : Type w}

/-- A place that can be overwritten: putting nothing changes nothing, and a later value
hides an earlier one. -/
structure Place (put : S → Option B → S) : Prop where
  put_none : ∀ s, put s none = s
  put_some : ∀ s b c, put (put s (some b)) (some c) = put s (some c)

/-- **The last write is what stays.** -/
theorem foldl_put {put : S → Option B → S} (place : Place put) {turn : S → A → S}
    {write : A → Option B} (turns : ∀ s a, turn s a = put s (write a)) (s : S) (l : List A) :
    l.foldl turn s = put s (l.filterMap write).getLast? := by
  induction l generalizing s with
  | nil => exact (place.put_none s).symm
  | cons a rest ih =>
      rw [List.foldl_cons, ih, turns]
      cases wrote : write a with
      | none => rw [List.filterMap_cons_none wrote, place.put_none]
      | some b =>
          rw [List.filterMap_cons_some wrote, List.getLast?_cons]
          cases (rest.filterMap write).getLast? with
          | none => exact place.put_none _
          | some c => exact place.put_some s b c

end Remindify.Theory.LastWrite
