/-
# Theory.Tickets -- numbers given out in order, and settled in some order

Numbers are given out one after the other.  Each is settled or still waits, and none
twice (`Tickets`).

The settled ones are in order when they are the first so many (`InOrder`).  Settling one
more keeps them so exactly when none that waits is older (`inOrder_settle_iff`), and a
number settled as it is given out when none waits at all (`inOrder_issue_iff`).
-/
import Mathlib.Data.List.Range
import Mathlib.Data.List.Nodup

namespace Remindify.Theory

set_option autoImplicit false

/-- The numbers below n, each settled or waiting, once. -/
def Tickets (n : Nat) (settled waiting : List Nat) : Prop :=
  (settled ++ waiting).Perm (List.range n)

/-- Nothing was settled before something older. -/
def InOrder (settled : List Nat) : Prop := settled = List.range settled.length

namespace Tickets

variable {n i : Nat} {settled settled' waiting waiting' : List Nat}

theorem none : Tickets 0 [] [] := List.Perm.refl []

/-- A number is given out and waits. -/
theorem issue (tickets : Tickets n settled waiting) :
    Tickets (n + 1) settled (waiting ++ [n]) := by
  unfold Tickets
  rw [← List.append_assoc, List.range_succ]
  exact tickets.append_right [n]

theorem congr (tickets : Tickets n settled waiting) (same : waiting.Perm waiting') :
    Tickets n settled waiting' :=
  (same.append_left settled).symm.trans tickets

theorem settled_congr (tickets : Tickets n settled waiting) (same : settled.Perm settled') :
    Tickets n settled' waiting :=
  (same.append_right waiting).symm.trans tickets

/-- A number that waits is settled. -/
theorem settle (tickets : Tickets n settled waiting) (split : waiting.Perm (i :: waiting')) :
    Tickets n (settled ++ [i]) waiting' := by
  have moved := tickets.congr split
  unfold Tickets at moved ⊢
  rwa [List.append_assoc]

/-- A number is settled as it is given out. -/
theorem issue_settled (tickets : Tickets n settled waiting) :
    Tickets (n + 1) (settled ++ [n]) waiting :=
  tickets.issue.settle (List.perm_append_singleton n waiting)

/-- With nothing waiting, every number is settled, once. -/
theorem count_eq_one (tickets : Tickets n settled []) (given : i < n) : settled.count i = 1 := by
  have all : settled.Perm (List.range n) := by
    unfold Tickets at tickets
    rwa [List.append_nil] at tickets
  rw [all.count_eq]
  exact List.count_eq_one_of_mem List.nodup_range (List.mem_range.2 given)

/-- What waits and what is settled in order are apart. -/
theorem length_le_of_waiting (tickets : Tickets n settled waiting) (inOrder : InOrder settled)
    (member : i ∈ waiting) : settled.length ≤ i := by
  by_contra younger
  have done : i ∈ settled := by
    rw [inOrder]
    exact List.mem_range.2 (Nat.lt_of_not_le younger)
  have apart := List.disjoint_of_nodup_append (tickets.nodup_iff.2 List.nodup_range)
  exact apart done member

theorem length_add (tickets : Tickets n settled waiting) :
    settled.length + waiting.length = n := by
  have same := tickets.length_eq
  rwa [List.length_append, List.length_range] at same

/-- One more in order is the next one. -/
theorem inOrder_concat_iff (inOrder : InOrder settled) :
    InOrder (settled ++ [i]) ↔ i = settled.length := by
  unfold InOrder at inOrder ⊢
  rw [List.length_append, List.length_singleton, List.range_succ, ← inOrder]
  simp

/-- **Settling in order**: nothing that waits is older. -/
theorem inOrder_settle_iff (tickets : Tickets n settled waiting) (inOrder : InOrder settled)
    (member : i ∈ waiting) : InOrder (settled ++ [i]) ↔ ∀ j ∈ waiting, i ≤ j := by
  rw [inOrder_concat_iff inOrder]
  have since : ∀ j ∈ waiting, settled.length ≤ j := fun _ waits =>
    tickets.length_le_of_waiting inOrder waits
  constructor
  · rintro rfl j waits
    exact since j waits
  · intro oldest
    have given : i < n := List.mem_range.1 (tickets.subset (List.mem_append_right _ member))
    have next : settled.length ∈ settled ++ waiting :=
      tickets.symm.subset (List.mem_range.2 ((since i member).trans_lt given))
    rcases List.mem_append.1 next with done | waits
    · rw [inOrder] at done
      simp at done
    · exact Nat.le_antisymm (oldest _ waits) (since i member)

/-- **Settling at once, in order**: nothing waits. -/
theorem inOrder_issue_iff (tickets : Tickets n settled waiting) (inOrder : InOrder settled) :
    InOrder (settled ++ [n]) ↔ waiting = [] := by
  rw [inOrder_concat_iff inOrder, ← tickets.length_add, ← List.length_eq_zero_iff]
  omega

/-- With nothing waiting, the last number is settled last. -/
theorem getLast?_of_inOrder (tickets : Tickets n settled []) (inOrder : InOrder settled) :
    settled.getLast? = (List.range n).getLast? := by
  have all := tickets.length_add
  rw [List.length_nil, Nat.add_zero] at all
  rw [← all, ← inOrder]

end Tickets

end Remindify.Theory
