/-
# Theory.Callback -- programs that answer through a completion

A program is handed a completion.  It makes calls, goes on in the callback of each, and
calls its completion here and there: once, or twice, or in some branches not at all.  A
call answers its callback once; a listener answers its callback again and again.  A trap
ends everything.

`Completes n program` says that the completion is called n times whatever the calls
answer.  It has one rule for each way to go on (`completes_done`, `completes_complete`,
`completes_call`), and `Completes.of_answer` where only one answer is considered.

* `perform_prefix`: completions only get more;
* `one_le_listen_iff`: a listener that traps or completes in each callback has completed
  exactly when its first callback did not trap.
-/
import Mathlib.Data.List.Basic
import Mathlib.Logic.Function.Iterate

namespace Remindify.Theory

set_option autoImplicit false

universe u v w

/-- A program over calls `C`, each with its type of answer, that completes with `α`. -/
inductive Callback (C : Type u) (R : C → Type v) (α : Type w) where
  | done
  | trap
  | complete (result : α) (rest : Callback C R α)
  | call (c : C) (answered : R c → Callback C R α)
  | listen (c : C) (answered : R c → Callback C R α)

/-- What the other side answers: to the n-th callback, whatever it is the callback of, and
how often a listener is called again. -/
structure Replies (C : Type u) (R : C → Type v) where
  answer : Nat → (c : C) → R c
  again : C → Nat

/-- How far a program has got. -/
structure Progress (α : Type w) where
  /-- the callbacks so far -/
  answers : Nat
  completions : List α
  isTrapped : Bool
  deriving DecidableEq, Repr

namespace Callback

variable {C : Type u} {R : C → Type v} {α : Type w}

def start : Progress α := { answers := 0, completions := [], isTrapped := false }

/-- The program runs to its end, through every callback. -/
def perform (replies : Replies C R) : Callback C R α → Progress α → Progress α
  | .done, progress => progress
  | .trap, progress => { progress with isTrapped := true }
  | .complete result rest, progress =>
      perform replies rest { progress with completions := progress.completions ++ [result] }
  | .call c answered, progress =>
      perform replies (answered (replies.answer progress.answers c))
        { progress with answers := progress.answers + 1 }
  | .listen c answered, progress =>
      Nat.iterate
        (fun progress =>
          if progress.isTrapped then progress
          else
            perform replies (answered (replies.answer progress.answers c))
              { progress with answers := progress.answers + 1 })
        (replies.again c + 1) progress

/-- What the completion was called with. -/
def completions (replies : Replies C R) (program : Callback C R α) : List α :=
  (perform replies program start).completions

/-- Whatever the calls answer, the completion is called so many times. -/
def Completes (times : Nat) (program : Callback C R α) : Prop :=
  ∀ (replies : Replies C R) (progress : Progress α),
    (perform replies program progress).completions.length = progress.completions.length + times

section Rules

variable {replies : Replies C R} {c : C} {answered : R c → Callback C R α} {times : Nat}

theorem completes_done : Completes 0 (done : Callback C R α) := fun _ _ => rfl

theorem completes_trap : Completes 0 (trap : Callback C R α) := fun _ _ => rfl

theorem completes_complete {rest : Callback C R α} (completes : Completes times rest)
    (result : α) : Completes (times + 1) (complete result rest) := by
  intro replies progress
  unfold perform
  rw [completes, List.length_append, List.length_singleton]
  omega

theorem completes_call (completes : ∀ reply, Completes times (answered reply)) :
    Completes times (call c answered) := by
  intro replies progress
  unfold perform
  rw [completes]

/-- The rule for the end of a program: one completion. -/
theorem completes_once (result : α) : Completes 1 (complete result (done : Callback C R α)) :=
  completes_complete completes_done result

theorem Completes.length_completions {program : Callback C R α}
    (completes : Completes times program) : (program.completions replies).length = times := by
  unfold completions
  rw [completes, start, List.length_nil, Nat.zero_add]

/-- A call that is answered in one way only needs the rule there. -/
theorem Completes.of_answer (completes : Completes times (answered (replies.answer 0 c))) :
    ((call c answered).completions replies).length = times := by
  unfold completions perform
  rw [start, completes, List.length_nil, Nat.zero_add]

/-- A program that completes once under a condition, and not at all otherwise. -/
theorem length_completions_iff {program : Callback C R α} {condition : Prop}
    (once : condition → (program.completions replies).length = 1)
    (never : ¬ condition → (program.completions replies).length = 0) :
    (program.completions replies).length = 1 ↔ condition := by
  by_cases met : condition
  · exact iff_of_true (once met) met
  · exact iff_of_false (by rw [never met]; exact Nat.zero_ne_one) met

end Rules

/-! ## Listeners -/

section Listeners

variable {replies : Replies C R} {c : C} {answered : R c → Callback C R α}

theorem iterate_prefix {turn : Progress α → Progress α}
    (grows : ∀ progress, progress.completions <+: (turn progress).completions) (times : Nat)
    (progress : Progress α) : progress.completions <+: (turn^[times] progress).completions := by
  induction times generalizing progress with
  | zero => exact List.prefix_rfl
  | succ times ih =>
      rw [Function.iterate_succ_apply]
      exact (grows progress).trans (ih (turn progress))

/-- **Completions only get more.** -/
theorem perform_prefix (program : Callback C R α) (progress : Progress α) :
    progress.completions <+: (perform replies program progress).completions := by
  induction program generalizing progress with
  | done | trap => exact List.prefix_rfl
  | complete result rest ih =>
      exact (List.prefix_append _ _).trans
        (ih { progress with completions := progress.completions ++ [result] })
  | call c answered ih => exact ih _ { progress with answers := progress.answers + 1 }
  | listen c answered ih =>
      refine iterate_prefix (fun progress => ?_) _ progress
      split
      · exact List.prefix_rfl
      · exact ih _ { progress with answers := progress.answers + 1 }

/-- One callback of a listener. -/
def turn (replies : Replies C R) (c : C) (answered : R c → Callback C R α)
    (progress : Progress α) : Progress α :=
  if progress.isTrapped then progress
  else
    perform replies (answered (replies.answer progress.answers c))
      { progress with answers := progress.answers + 1 }

theorem completions_listen : (listen c answered).completions replies =
    ((turn replies c answered)^[replies.again c] (turn replies c answered start)).completions := rfl

theorem turn_prefix (progress : Progress α) :
    progress.completions <+: (turn replies c answered progress).completions := by
  unfold turn
  split
  · exact List.prefix_rfl
  · exact perform_prefix _ { progress with answers := progress.answers + 1 }

/-- **A listener completes at least once** exactly when its first callback does not trap:
what was completed stays, and after a trap nothing follows. -/
theorem one_le_listen_iff
    (answers : ∀ reply, answered reply = .trap ∨ Completes 1 (answered reply)) :
    1 ≤ ((listen c answered).completions replies).length ↔
      answered (replies.answer 0 c) ≠ .trap := by
  rw [completions_listen]
  rcases answers (replies.answer 0 c) with trapped | completes
  · have first : turn replies c answered start =
        { answers := 1, completions := [], isTrapped := true } := by
      unfold turn
      simp only [start, trapped, perform]
      rfl
    have stays : turn replies c answered { answers := 1, completions := [], isTrapped := true } =
        { answers := 1, completions := [], isTrapped := true } := rfl
    rw [first, Function.iterate_fixed stays]
    simp [trapped]
  · have first : (turn replies c answered start).completions.length = 1 :=
      completes replies { start with answers := 1 }
    have grows : (turn replies c answered start).completions <+:
        ((turn replies c answered)^[replies.again c] (turn replies c answered start)).completions :=
      iterate_prefix turn_prefix _ _
    refine ⟨fun _ trapped => ?_, fun _ => first ▸ grows.length_le⟩
    rw [trapped] at completes
    have none : ((trap : Callback C R α).completions replies).length = 0 :=
      completes_trap.length_completions
    exact Nat.one_ne_zero (completes.length_completions.symm.trans none)

end Listeners

end Callback

end Remindify.Theory
