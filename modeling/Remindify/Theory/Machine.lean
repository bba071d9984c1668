/-
# Theory.Machine -- machines that refuse events, and what holds along their runs

A `Machine` says where a system may start and what each event does to a state;
`none` is an event that cannot happen there.  `Reach M ok` is the set of states
reached from a start through events that each meet `ok` in the state they happen
in, so `Reach M (fun _ _ => True)` is plain reachability.

* `Reach.invariant`: the induction over a run, packaged once.  The step case may
  use that the state is reached, so invariants proved earlier can be cited.
* `throughout_of_runOk`: what an invariant implies holds in every state of the runs
  that keep it.
* `throughout_iff_runOk`: when a condition on one step is exactly what keeps a
  property, the property holds in every state of a run if and only if every
  event of the run meets the condition.
* `run_simulates`: a forward simulation carries whole runs over.
-/
import Mathlib.Init

namespace Remindify.Theory

set_option autoImplicit false

universe u v w x

/-- Where a system may start, and what each event does to a state. -/
structure Machine (S : Type u) (E : Type v) where
  init : S → Prop
  step : S → E → Option S

namespace Machine

variable {S : Type u} {E : Type v} (M : Machine S E)

/-- The states reached from a start through events that each meet `ok`. -/
inductive Reach (ok : S → E → Prop) : S → Prop where
  | init {s : S} (start : M.init s) : Reach ok s
  | step {s s' : S} {e : E} (prior : Reach ok s) (met : ok s e)
      (moved : M.step s e = some s') : Reach ok s'

abbrev Reachable : S → Prop := M.Reach fun _ _ => True

/-- The state after a list of events, if each of them can happen. -/
def run : S → List E → Option S
  | s, [] => some s
  | s, e :: es => (M.step s e).bind fun s' => run s' es

/-- Every event of the run meets `ok` in the state it happens in. -/
def RunOk (ok : S → E → Prop) : S → List E → Prop
  | _, [] => True
  | s, e :: es => ∀ s', M.step s e = some s' → ok s e ∧ RunOk ok s' es

/-- `P` holds in every state of the run, the first and the last included. -/
def Throughout (P : S → Prop) : S → List E → Prop
  | s, [] => P s
  | s, e :: es => P s ∧ ∀ s', M.step s e = some s' → Throughout P s' es

@[simp] theorem run_nil (s : S) : M.run s [] = some s := rfl

@[simp] theorem run_cons (s : S) (e : E) (es : List E) :
    M.run s (e :: es) = (M.step s e).bind fun s' => M.run s' es := rfl

variable {M}

/-- **The invariant rule.**  What holds at the start and is kept by every event
that meets `ok` holds in every state reached. -/
theorem Reach.invariant {ok : S → E → Prop} {I : S → Prop}
    (start : ∀ s, M.init s → I s)
    (keeps : ∀ s e s', M.Reach ok s → I s → ok s e → M.step s e = some s' → I s')
    {s : S} (reached : M.Reach ok s) : I s := by
  induction reached with
  | init initial => exact start _ initial
  | step prior met moved ih => exact keeps _ _ _ prior ih met moved

theorem Reach.of_run {ok : S → E → Prop} {s s' : S} {es : List E}
    (reached : M.Reach ok s) (met : M.RunOk ok s es) (ran : M.run s es = some s') :
    M.Reach ok s' := by
  induction es generalizing s with
  | nil =>
      cases ran
      exact reached
  | cons e es ih =>
      rw [run_cons, Option.bind_eq_some_iff] at ran
      obtain ⟨next, moved, rest⟩ := ran
      obtain ⟨here, later⟩ := met next moved
      exact ih (reached.step here moved) later rest

theorem RunOk.cons {ok : S → E → Prop} {s next : S} {e : E} {es : List E}
    (moved : M.step s e = some next) (here : ok s e) (later : M.RunOk ok next es) :
    M.RunOk ok s (e :: es) := by
  intro s' moved'
  rw [moved] at moved'
  cases moved'
  exact ⟨here, later⟩

theorem runOk_of_forall {ok : S → E → Prop} {es : List E} (all : ∀ e ∈ es, ∀ s, ok s e) (s : S) :
    M.RunOk ok s es := by
  induction es generalizing s with
  | nil => trivial
  | cons e es ih =>
      exact fun s' _ => ⟨all e (List.mem_cons_self ..) s,
        ih (fun e' member => all e' (List.mem_cons_of_mem _ member)) s'⟩

theorem reachable_of_run {s s' : S} {es : List E} (start : M.init s)
    (ran : M.run s es = some s') : M.Reachable s' :=
  (Reach.init start).of_run (runOk_of_forall (fun _ _ _ => trivial) s) ran

theorem Throughout.here {P : S → Prop} {s : S} {es : List E} (all : M.Throughout P s es) :
    P s := by
  cases es with
  | nil => exact all
  | cons e es => exact all.1

/-- What every event keeps, a run keeps. -/
theorem run_invariant {I : S → Prop} (keeps : ∀ s e s', I s → M.step s e = some s' → I s')
    {s s' : S} {es : List E} (inv : I s) (ran : M.run s es = some s') : I s' := by
  induction es generalizing s with
  | nil =>
      cases ran
      exact inv
  | cons e es ih =>
      rw [run_cons, Option.bind_eq_some_iff] at ran
      obtain ⟨next, moved, rest⟩ := ran
      exact ih (keeps s e next inv moved) rest

theorem run_append {s mid s' : S} {es es' : List E} (ran : M.run s es = some mid)
    (ran' : M.run mid es' = some s') : M.run s (es ++ es') = some s' := by
  induction es generalizing s with
  | nil =>
      cases ran
      exact ran'
  | cons e es ih =>
      rw [run_cons, Option.bind_eq_some_iff] at ran
      obtain ⟨next, moved, rest⟩ := ran
      rw [List.cons_append, run_cons, moved]
      exact ih rest

/-- What an invariant implies, throughout the runs that keep the invariant. -/
theorem throughout_of_runOk {I P : S → Prop} {ok : S → E → Prop}
    (keeps : ∀ s e s', I s → ok s e → M.step s e = some s' → I s')
    (implies : ∀ s, I s → P s) {s : S} {es : List E} (inv : I s) (met : M.RunOk ok s es) :
    M.Throughout P s es := by
  induction es generalizing s with
  | nil => exact implies s inv
  | cons e es ih =>
      refine ⟨implies s inv, fun s' moved => ?_⟩
      obtain ⟨here, later⟩ := met s' moved
      exact ih (keeps s e s' inv here moved) later

/-- **Exact conditions.**  If, wherever the invariant and the property hold, an
event keeps the property exactly when it meets `ok`, then the property holds
throughout a run exactly when every event of it meets `ok`.  The invariant only
has to last as long as the property does. -/
theorem throughout_iff_runOk {I P : S → Prop} {ok : S → E → Prop}
    (keeps : ∀ s e s', I s → P s → M.step s e = some s' → P s' → I s')
    (exact_ : ∀ s e s', I s → P s → M.step s e = some s' → (P s' ↔ ok s e))
    {s : S} (inv : I s) (holds : P s) (es : List E) :
    M.Throughout P s es ↔ M.RunOk ok s es := by
  induction es generalizing s with
  | nil => exact ⟨fun _ => trivial, fun _ => holds⟩
  | cons e es ih =>
      constructor
      · intro all s' moved
        have next := all.2 s' moved
        have inv' := keeps s e s' inv holds moved next.here
        exact ⟨(exact_ s e s' inv holds moved).1 next.here, (ih inv' next.here).1 next⟩
      · intro met
        refine ⟨holds, fun s' moved => ?_⟩
        obtain ⟨here, later⟩ := met s' moved
        have holds' := (exact_ s e s' inv holds moved).2 here
        have inv' := keeps s e s' inv holds moved holds'
        exact (ih inv' holds').2 later

/-- A relation kept by every step of `M`, answered by a step of `A`, is kept by
every run of `M`, answered by a run of `A`. -/
theorem run_simulates {S' : Type w} {E' : Type x} {A : Machine S' E'}
    {R : S → S' → Prop} (label : E → E')
    (answers : ∀ s t e s', R s t → M.step s e = some s' →
      ∃ t', A.step t (label e) = some t' ∧ R s' t')
    {s s' : S} {t : S'} {es : List E} (related : R s t) (ran : M.run s es = some s') :
    ∃ t', A.run t (es.map label) = some t' ∧ R s' t' := by
  induction es generalizing s t with
  | nil =>
      cases ran
      exact ⟨t, rfl, related⟩
  | cons e es ih =>
      rw [run_cons, Option.bind_eq_some_iff] at ran
      obtain ⟨next, moved, rest⟩ := ran
      obtain ⟨mid, answered, related'⟩ := answers s t e next related moved
      obtain ⟨t', ran', final⟩ := ih related' rest
      refine ⟨t', ?_, final⟩
      rw [List.map_cons, run_cons, answered]
      exact ran'

end Machine

end Remindify.Theory
