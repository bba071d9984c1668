/-
# Theory.WholeRecord -- read, modify, and write the whole record

A session reads a record, changes some of its fields, and writes all of them back.
`Merges` is what two sessions would leave if each wrote only what it changed.

* `merges_of_after`: a session that read what the other had written leaves the merge;
* `merges_iff_of_before`: a session that read the record before the other wrote
  leaves the merge only if the other changed nothing.
-/
import Mathlib.Logic.Basic

namespace Remindify.Theory.WholeRecord

set_option autoImplicit false

universe u v

variable {F : Type u} {V : Type v}

/-- What a session read, and what it wrote back. -/
structure Save (F : Type u) (V : Type v) where
  copy : F → V
  written : F → V

def Save.Changed (save : Save F V) (field : F) : Prop := save.written field ≠ save.copy field

/-- No field is changed by both. -/
def Apart (save other : Save F V) : Prop := ∀ field, ¬ (save.Changed field ∧ other.Changed field)

/-- Each session's new values where it changed something, the old value elsewhere. -/
structure Merges (old : F → V) (save other : Save F V) (record : F → V) : Prop where
  first : ∀ field, save.Changed field → record field = save.written field
  second : ∀ field, other.Changed field → record field = other.written field
  kept : ∀ field, ¬ save.Changed field → ¬ other.Changed field → record field = old field

variable {old : F → V} {save other : Save F V}

theorem Merges.symm {record : F → V} (merges : Merges old save other record) :
    Merges old other save record :=
  ⟨merges.second, merges.first, fun field here there => merges.kept field there here⟩

theorem Apart.symm (apart : Apart save other) : Apart other save :=
  fun field both => apart field both.symm

/-- **One session after the other.** -/
theorem merges_of_after (read : save.copy = old) (after : other.copy = save.written)
    (apart : Apart save other) : Merges old save other other.written where
  first field changed := by
    refine Classical.not_not.1 fun differs => apart field ⟨changed, ?_⟩
    rw [Save.Changed, after]
    exact differs
  second _ _ := rfl
  kept field here there := by
    have same : other.written field = other.copy field := Classical.not_not.1 there
    have before : save.written field = save.copy field := Classical.not_not.1 here
    rw [same, after, before, read]

/-- **Overlapping sessions.**  The second to write takes back what the first changed. -/
theorem merges_iff_of_before (read : save.copy = old) (before : other.copy = old)
    (apart : Apart save other) :
    Merges old save other other.written ↔ ∀ field, ¬ save.Changed field := by
  constructor
  · intro merges field changed
    have taken : other.written field = save.written field := merges.first field changed
    have own : other.Changed field := by
      intro unchanged
      apply changed
      rw [← taken, unchanged, before, read]
    exact apart field ⟨changed, own⟩
  · intro nothing
    refine ⟨fun field changed => absurd changed (nothing field), fun _ _ => rfl, ?_⟩
    intro field _ there
    have same : other.written field = other.copy field := Classical.not_not.1 there
    rw [same, before]

end Remindify.Theory.WholeRecord
