/-
# Theory.Chains -- concurrent chains of callbacks that write one log

Every tap of a button may start a chain of asynchronous calls.  The chains are
numbered; what they do is recorded, newest first, in a log shared by all of them,
and each entry names its chain.  `trace` is the part of the log one chain wrote.

A protocol for one chain is a relation between the state of the chain and its
trace.  `Follows` says that every chain is on its protocol; starting a chain
(`Follows.start`) and letting one chain move (`Follows.advance`) keep it, so the
interleaving of the chains never enters a proof about one of them.
-/
import Mathlib.Data.List.Basic

namespace Remindify.Theory.Chains

set_option autoImplicit false

universe u v

variable {E : Type u} {C : Type v} (chain : E → Nat)

/-- The entries of one chain, newest first. -/
def trace (k : Nat) (log : List E) : List E := log.filter fun e => chain e = k

variable {chain} {k : Nat} {log : List E}

theorem mem_trace {e : E} : e ∈ trace chain k log ↔ e ∈ log ∧ chain e = k := by
  simp [trace]

theorem trace_sublist (chain : E → Nat) (k : Nat) (log : List E) :
    (trace chain k log).Sublist log :=
  List.filter_sublist

theorem trace_append_own {entries : List E} (own : ∀ e ∈ entries, chain e = k) :
    trace chain k (entries ++ log) = entries ++ trace chain k log := by
  rw [trace, List.filter_append, List.filter_eq_self.2 fun e member => by simpa using own e member]
  rfl

theorem trace_append_other {entries : List E} (other : ∀ e ∈ entries, chain e ≠ k) :
    trace chain k (entries ++ log) = trace chain k log := by
  rw [trace, List.filter_append, List.filter_eq_nil_iff.2 fun e member => by
    simpa using other e member]
  rfl

/-- Entries only one chain can write are counted in its trace. -/
theorem countP_trace {p : E → Bool} (own : ∀ e, p e = true → chain e = k) :
    (trace chain k log).countP p = log.countP p := by
  rw [trace, List.countP_filter]
  refine List.countP_congr fun e _ => ?_
  simp only [Bool.and_eq_true, decide_eq_true_eq, and_iff_left_iff_imp]
  exact own e

/-- Every chain of the table is on its protocol, and nobody else writes the log. -/
structure Follows (chain : E → Nat) (protocol : Nat → C → List E → Prop) (chains : List C)
    (log : List E) : Prop where
  known : ∀ e ∈ log, chain e < chains.length
  path : ∀ k c, chains[k]? = some c → protocol k c (trace chain k log)

variable {protocol : Nat → C → List E → Prop} {chains : List C}

theorem Follows.nil : Follows chain protocol [] [] where
  known := by simp
  path := by simp

/-- The chain that wrote an entry, and its trace. -/
theorem Follows.of_mem (follows : Follows chain protocol chains log) {e : E} (member : e ∈ log)
    (own : chain e = k) :
    ∃ c, protocol k c (trace chain k log) ∧ e ∈ trace chain k log :=
  have known := own ▸ follows.known e member
  ⟨_, follows.path _ _ (List.getElem?_eq_getElem known), mem_trace.2 ⟨member, own⟩⟩

/-- **A new chain.**  It starts with the entries it writes first. -/
theorem Follows.start (follows : Follows chain protocol chains log) {c : C} {entries : List E}
    (own : ∀ e ∈ entries, chain e = chains.length)
    (first : protocol chains.length c entries) :
    Follows chain protocol (chains ++ [c]) (entries ++ log) where
  known := by
    intro e member
    rw [List.length_append, List.length_singleton]
    rcases List.mem_append.1 member with new | old
    · exact (own e new).symm ▸ Nat.lt_succ_self _
    · exact Nat.lt_succ_of_lt (follows.known e old)
  path := by
    intro k c' at_
    rcases Nat.lt_trichotomy k chains.length with older | rfl | newer
    · rw [List.getElem?_append_left older] at at_
      rw [trace_append_other fun e member => by rw [own e member]; exact Nat.ne_of_gt older]
      exact follows.path k c' at_
    · have unused : trace chain chains.length log = [] :=
        List.filter_eq_nil_iff.2 fun e member => by
          simpa using Nat.ne_of_lt (follows.known e member)
      rw [List.getElem?_concat_length] at at_
      cases at_
      rw [trace_append_own own, unused, List.append_nil]
      exact first
    · rw [List.getElem?_eq_none (by simp; omega)] at at_
      cases at_

/-- **One chain moves.**  The others keep their state and their trace. -/
theorem Follows.advance (follows : Follows chain protocol chains log) {k : Nat} {c c' : C}
    (at_ : chains[k]? = some c) {entries : List E} (own : ∀ e ∈ entries, chain e = k)
    (next : protocol k c (trace chain k log) → protocol k c' (entries ++ trace chain k log)) :
    Follows chain protocol (chains.set k c') (entries ++ log) where
  known := by
    intro e member
    rw [List.length_set]
    rcases List.mem_append.1 member with new | old
    · exact (own e new).symm ▸ (List.getElem?_eq_some_iff.1 at_).1
    · exact follows.known e old
  path := by
    intro j d there
    by_cases same : j = k
    · subst same
      rw [List.getElem?_set_self (List.getElem?_eq_some_iff.1 at_).1] at there
      cases there
      rw [trace_append_own own]
      exact next (follows.path j c at_)
    · rw [List.getElem?_set_ne (Ne.symm same)] at there
      rw [trace_append_other fun e member => by rw [own e member]; exact Ne.symm same]
      exact follows.path j d there

end Remindify.Theory.Chains
