/-
# Theory.Keyed -- lists whose elements are told apart by a key

A snapshot of a collection is a list without repeated keys.  Removing "the first
element with this key" and removing "the element at this position" are then the
same operation, and both are a filter.
-/
import Mathlib.Data.List.Nodup

namespace Remindify.Theory.Keyed

set_option autoImplicit false

universe u v

variable {α : Type u} {κ : Type v}

/-- Two filters of one list agree exactly when their predicates agree on it. -/
theorem filter_eq_filter_iff (l : List α) (p q : α → Bool) :
    l.filter p = l.filter q ↔ ∀ a ∈ l, p a = q a := by
  constructor
  · intro same a member
    have iff : a ∈ l.filter p ↔ a ∈ l.filter q := by rw [same]
    simp only [List.mem_filter, member, true_and] at iff
    exact Bool.eq_iff_iff.2 iff
  · exact List.filter_congr

variable [DecidableEq κ] (key : α → κ)

/-- The first element with the key of the element at `i` is that element. -/
theorem findIdx?_key {l : List α} (distinct : (l.map key).Nodup) {i : Nat} {a : α}
    (at_ : l[i]? = some a) : l.findIdx? (fun b => key b = key a) = some i := by
  obtain ⟨bound, rfl⟩ := List.getElem?_eq_some_iff.1 at_
  refine List.findIdx?_eq_some_iff_getElem.2 ⟨bound, by simp, fun j below => ?_⟩
  have apart : key l[j] ≠ key l[i] := by
    intro same
    have boundI : i < (l.map key).length := by simpa using bound
    have boundJ : j < (l.map key).length := by omega
    have position : (l.map key)[j] = (l.map key)[i] ↔ j = i := distinct.getElem_inj_iff
    exact absurd (position.1 (by simpa using same)) (by omega)
  simpa using apart

/-- Removing the element at `i` removes exactly what has its key. -/
theorem eraseIdx_eq_filter {l : List α} (distinct : (l.map key).Nodup) {i : Nat} {a : α}
    (at_ : l[i]? = some a) : l.eraseIdx i = l.filter fun b => key b ≠ key a := by
  induction l generalizing i with
  | nil => simp at at_
  | cons head tail ih =>
      rw [List.map_cons, List.nodup_cons] at distinct
      obtain ⟨fresh, rest⟩ := distinct
      cases i with
      | zero =>
          have same : head = a := by simpa using at_
          subst same
          have kept : ∀ b ∈ tail, key b ≠ key head := fun b member equal =>
            fresh (List.mem_map.2 ⟨b, member, equal⟩)
          simp only [List.eraseIdx_cons_zero, List.filter_cons, ne_eq, not_true_eq_false,
            decide_false, Bool.false_eq_true, if_false]
          exact (List.filter_eq_self.2 fun b member => by simpa using kept b member).symm
      | succ i =>
          have at' : tail[i]? = some a := by simpa using at_
          have apart : key head ≠ key a := fun equal =>
            fresh (List.mem_map.2 ⟨a, List.mem_of_getElem? at', equal.symm⟩)
          simp only [List.eraseIdx_cons_succ, List.filter_cons, ne_eq, apart, not_false_eq_true,
            decide_true, if_true, ih rest at']

end Remindify.Theory.Keyed
