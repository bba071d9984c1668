/-
# Theory.Ordered -- sorting by one key, and what another key makes of it

A strict weak order is given by `before`, asymmetric and cotransitive: whatever comes
between two elements is after the one or before the other.

* `descending_total`, `descending_trans`: the latest first, ties broken by another
  order, is an order to sort by;
* `pairwise_iff_of_sorted`: a list sorted by one order is in another relation pairwise
  exactly when the first order never contradicts it.
-/
import Mathlib.Data.List.Basic

namespace Remindify.Theory.Ordered

set_option autoImplicit false

universe u v

variable {α : Type u} {κ : Type v}

/-! ## Latest first -/

section Descending

variable {before : κ → κ → Prop} {key : α → κ} {tie : α → α → Prop}

/-- The later key first; equal keys by `tie`. -/
def Descending (before : κ → κ → Prop) (key : α → κ) (tie : α → α → Prop) (a b : α) : Prop :=
  before (key b) (key a) ∨ (¬ before (key a) (key b) ∧ tie a b)

theorem descending_total (ties : ∀ a b, tie a b ∨ tie b a) (a b : α) :
    Descending before key tie a b ∨ Descending before key tie b a := by
  by_cases first : before (key b) (key a)
  · exact Or.inl (Or.inl first)
  · by_cases second : before (key a) (key b)
    · exact Or.inr (Or.inl second)
    · rcases ties a b with here | there
      · exact Or.inl (Or.inr ⟨second, here⟩)
      · exact Or.inr (Or.inr ⟨first, there⟩)

theorem descending_trans (asymm : ∀ k l, before k l → ¬ before l k)
    (cotrans : ∀ k l m, before k m → before k l ∨ before l m)
    (ties : ∀ a b c, tie a b → tie b c → tie a c) {a b c : α}
    (first : Descending before key tie a b) (second : Descending before key tie b c) :
    Descending before key tie a c := by
  rcases first with later | ⟨tied, here⟩
  · -- `b` is strictly before `a`, and `c` is not after `b`
    have notAfter : ¬ before (key b) (key c) := by
      rcases second with later' | ⟨tied', -⟩
      · exact asymm _ _ later'
      · exact tied'
    exact Or.inl ((cotrans _ (key c) _ later).resolve_left notAfter)
  · rcases second with later' | ⟨tied', there⟩
    · exact Or.inl ((cotrans _ (key a) _ later').resolve_right tied)
    · refine Or.inr ⟨fun back => ?_, ties _ _ _ here there⟩
      rcases cotrans _ (key b) _ back with left | right
      · exact tied left
      · exact tied' right

end Descending

/-! ## Another relation on a sorted list -/

/-- **When a sorted list is in another relation too**: exactly when elements that the
order tells apart are in it, provided tied elements are. -/
theorem pairwise_iff_of_sorted {before P : α → α → Prop} {l : List α}
    (irrefl : ∀ a, ¬ before a a) (sorted : l.Pairwise fun a b => ¬ before a b)
    (ties : ∀ a ∈ l, ∀ b ∈ l, ¬ before a b → ¬ before b a → P a b) :
    l.Pairwise P ↔ ∀ a ∈ l, ∀ b ∈ l, before b a → P a b := by
  rw [List.pairwise_iff_getElem] at sorted ⊢
  constructor
  · intro all a memberA b memberB later
    obtain ⟨i, boundI, rfl⟩ := List.getElem_of_mem memberA
    obtain ⟨j, boundJ, rfl⟩ := List.getElem_of_mem memberB
    rcases Nat.lt_trichotomy i j with below | rfl | above
    · exact all i j boundI boundJ below
    · exact absurd later (irrefl _)
    · exact absurd later (sorted j i boundJ boundI above)
  · intro agree i j boundI boundJ below
    have memberI := List.getElem_mem boundI
    have memberJ := List.getElem_mem boundJ
    by_cases later : before l[j] l[i]
    · exact agree _ memberI _ memberJ later
    · exact ties _ memberI _ memberJ (sorted i j boundI boundJ below) later

end Remindify.Theory.Ordered
