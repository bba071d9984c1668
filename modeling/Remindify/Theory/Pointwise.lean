/-
# Theory.Pointwise -- lists whose elements change where they stand

`List.Forall₂ R before after` says that a list changed place by place, each element in
the way `R` allows.  Here is how such a change arises, from rewriting every element or
a single one, and how an element is followed through it.  `flatMap_set_perm` and
`flatMap_set_sublist` are what a single change does to what the elements add up to.
-/
import Mathlib.Data.List.Forall2

namespace Remindify.Theory.Pointwise

set_option autoImplicit false

universe u v

section Follow

variable {α : Type u} {β : Type v} {R : α → β → Prop} {before : List α} {after : List β}

/-- Every element after the change comes from one before it. -/
theorem mem_right (changed : List.Forall₂ R before after) {b : β} (member : b ∈ after) :
    ∃ a ∈ before, R a b := by
  induction changed with
  | nil => cases member
  | cons here rest ih =>
      rcases List.mem_cons.1 member with rfl | later
      · exact ⟨_, List.mem_cons_self .., here⟩
      · obtain ⟨a, found, related⟩ := ih later
        exact ⟨a, List.mem_cons_of_mem _ found, related⟩

/-- Every element before the change becomes one after it. -/
theorem mem_left (changed : List.Forall₂ R before after) {a : α} (member : a ∈ before) :
    ∃ b ∈ after, R a b :=
  mem_right changed.flip member

end Follow

section Arise

variable {α : Type u} {R : α → α → Prop}

theorem map {f : α → α} (related : ∀ a, R a (f a)) (l : List α) : List.Forall₂ R l (l.map f) := by
  rw [List.forall₂_map_right_iff, List.forall₂_same]
  intro a _
  exact related a

theorem set (refl : ∀ a, R a a) {l : List α} {i : Nat} {a a' : α} (at_ : l[i]? = some a)
    (related : R a a') : List.Forall₂ R l (l.set i a') := by
  induction l generalizing i with
  | nil => cases at_
  | cons head tail ih =>
      have same : List.Forall₂ R tail tail := List.forall₂_same.2 fun a _ => refl a
      cases i with
      | zero =>
          cases at_
          exact .cons related same
      | succ i => exact .cons (refl head) (ih at_)

/-- One element of a list gets more to contribute. -/
theorem flatMap_set_perm {β : Type v} {f : α → List β} {l : List α} {index : Nat} {a a' : α}
    {more : List β} (at_ : l[index]? = some a) (grown : f a' = f a ++ more) :
    ((l.set index a').flatMap f).Perm (l.flatMap f ++ more) := by
  induction l generalizing index with
  | nil => cases at_
  | cons head tail ih =>
      cases index with
      | zero =>
          obtain rfl : head = a := by simpa using at_
          simp only [List.set_cons_zero, List.flatMap_cons, grown, List.append_assoc]
          exact (List.perm_append_comm).append_left _
      | succ index =>
          have at' : tail[index]? = some a := by simpa using at_
          simp only [List.set_cons_succ, List.flatMap_cons, List.append_assoc]
          exact (ih at').append_left _

/-- One element of a list has less to contribute. -/
theorem flatMap_set_sublist {β : Type v} {f : α → List β} {l : List α} {index : Nat} {a a' : α}
    (at_ : l[index]? = some a) (fewer : (f a').Sublist (f a)) :
    ((l.set index a').flatMap f).Sublist (l.flatMap f) := by
  induction l generalizing index with
  | nil => cases at_
  | cons head tail ih =>
      cases index with
      | zero =>
          cases at_
          exact fewer.append (List.Sublist.refl _)
      | succ index =>
          have at' : tail[index]? = some a := by simpa using at_
          exact (List.Sublist.refl _).append (ih at')

end Arise

end Remindify.Theory.Pointwise
