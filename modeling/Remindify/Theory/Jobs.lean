/-
# Theory.Jobs -- programs under way at the same time

Programs of `Theory.Callback`, any number of them, whose callbacks come in any order.  A
`Job` is one of them: what it has completed with, and what it waits for.  A `Pool` is the
jobs begun so far; a trap in one of them ends everything.

* `Pool.run_alone`: in every interleaving a job is where it would be alone, with the
  replies it was given;
* `Between`: bounds on the completions of a program, one rule for each way to go on, and
  `Pool.owes`: they hold of every job of a pool;
* `completions_listen`: a listener passes on every answer.
-/
import Remindify.Theory.Callback
import Remindify.Theory.Machine

namespace Remindify.Theory

set_option autoImplicit false

universe u v w x

variable {C : Type u} {R : C → Type v} {α : Type w}

/-- What a program waits for: an answer, or answer after answer. -/
inductive Wait (C : Type u) (R : C → Type v) (α : Type w) where
  | call (c : C) (answered : R c → Callback C R α)
  | listen (c : C) (answered : R c → Callback C R α)

structure Job (C : Type u) (R : C → Type v) (α : Type w) where
  completions : List α
  waits : List (Wait C R α)
  isTrapped : Bool

/-- An answer to one of the callbacks a job waits for, whatever it has called. -/
structure Answer (C : Type u) (R : C → Type v) where
  wait : Nat
  reply : (c : C) → R c

namespace Job

/-- The program goes on until it waits, or ends. -/
def proceed : Callback C R α → Job C R α → Job C R α
  | .done, job => job
  | .trap, job => { job with isTrapped := true }
  | .complete result rest, job =>
      proceed rest { job with completions := job.completions ++ [result] }
  | .call c answered, job => { job with waits := job.waits ++ [.call c answered] }
  | .listen c answered, job => { job with waits := job.waits ++ [.listen c answered] }

def begin (program : Callback C R α) : Job C R α := proceed program ⟨[], [], false⟩

/-- A callback comes; a listener stays. -/
def answer (job : Job C R α) (answer : Answer C R) : Option (Job C R α) :=
  match job.waits[answer.wait]? with
  | some (.call c answered) =>
      some (proceed (answered (answer.reply c))
        { job with waits := job.waits.eraseIdx answer.wait })
  | some (.listen c answered) => some (proceed (answered (answer.reply c)) job)
  | none => none

/-- A job alone. -/
def machine (program : Callback C R α) : Machine (Job C R α) (Answer C R) where
  init job := job = begin program
  step := answer

end Job

/-! ## Pools -/

section Pool

variable {ι : Type x} {α : ι → Type w}

structure Pool (C : Type u) (R : C → Type v) {ι : Type x} (α : ι → Type w) where
  jobs : List (Σ i, Job C R (α i))

namespace Pool

inductive Event (C : Type u) (R : C → Type v) (ι : Type x) where
  | begin (i : ι)
  | answer (job : Nat) (answer : Answer C R)

def empty : Pool C R α := ⟨[]⟩

def isTrapped (pool : Pool C R α) : Bool := pool.jobs.any (·.2.isTrapped)

def step (program : (i : ι) → Callback C R (α i)) (pool : Pool C R α) :
    Event C R ι → Option (Pool C R α)
  | .begin i =>
      if pool.isTrapped then none else some ⟨pool.jobs ++ [⟨i, Job.begin (program i)⟩]⟩
  | .answer job answer =>
      if pool.isTrapped then none
      else
        match pool.jobs[job]? with
        | some ⟨i, waiting⟩ => (waiting.answer answer).map fun job' => ⟨pool.jobs.set job ⟨i, job'⟩⟩
        | none => none

def machine (program : (i : ι) → Callback C R (α i)) : Machine (Pool C R α) (Event C R ι) where
  init pool := pool = empty
  step := step program

/-- The answers to one job. -/
def answersTo (job : Nat) (es : List (Event C R ι)) : List (Answer C R) :=
  es.filterMap fun
    | .begin _ => none
    | .answer other answer => if other = job then some answer else none

section Step

variable {program : (i : ι) → Callback C R (α i)} {pool pool' : Pool C R α}

/-- What a step does: a job more, or one job further. -/
inductive Effect (program : (i : ι) → Callback C R (α i)) (pool : Pool C R α) :
    Event C R ι → Pool C R α → Prop where
  | began (i : ι) :
      Effect program pool (.begin i) ⟨pool.jobs ++ [⟨i, Job.begin (program i)⟩]⟩
  | answered {index : Nat} {i : ι} {job job' : Job C R (α i)} {answer : Answer C R}
      (at_ : pool.jobs[index]? = some ⟨i, job⟩) (heard : job.answer answer = some job') :
      Effect program pool (.answer index answer) ⟨pool.jobs.set index ⟨i, job'⟩⟩

theorem effect_of_step {event : Event C R ι} (moved : step program pool event = some pool') :
    Effect program pool event pool' := by
  cases event with
  | begin i =>
      simp only [step] at moved
      split at moved
      · cases moved
      · cases moved
        exact .began i
  | answer index answer =>
      simp only [step] at moved
      split at moved
      · cases moved
      · split at moved
        · rename_i i job at_
          obtain ⟨job', heard, rfl⟩ := Option.map_eq_some_iff.1 moved
          exact .answered at_ heard
        · cases moved

/-- One event, as one job sees it: nothing, or an answer. -/
theorem alone_step {event : Event C R ι} (moved : step program pool event = some pool')
    {index : Nat} {i : ι} {job : Job C R (α i)} (at_ : pool.jobs[index]? = some ⟨i, job⟩) :
    ∃ job', pool'.jobs[index]? = some ⟨i, job'⟩ ∧
      (Job.machine (program i)).run job (answersTo index [event]) = some job' := by
  cases effect_of_step moved with
  | began other =>
      refine ⟨job, ?_, rfl⟩
      rw [List.getElem?_append_left (List.getElem?_eq_some_iff.1 at_).1]
      exact at_
  | @answered other j before after answer found heard =>
      by_cases same : other = index
      · subst same
        cases found.symm.trans at_
        refine ⟨after, List.getElem?_set_self (List.getElem?_eq_some_iff.1 at_).1, ?_⟩
        have moved' : (Job.machine (program i)).step job answer = some after := heard
        simp [answersTo, moved']
      · refine ⟨job, (List.getElem?_set_ne same).trans at_, ?_⟩
        simp [answersTo, same]

/-- A job that is there from some moment on. -/
theorem alone_run {es : List (Event C R ι)} (ran : (machine program).run pool es = some pool')
    {index : Nat} {i : ι} {job : Job C R (α i)} (at_ : pool.jobs[index]? = some ⟨i, job⟩) :
    ∃ job', pool'.jobs[index]? = some ⟨i, job'⟩ ∧
      (Job.machine (program i)).run job (answersTo index es) = some job' := by
  induction es generalizing pool job with
  | nil =>
      cases ran
      exact ⟨job, at_, rfl⟩
  | cons event es ih =>
      rw [Machine.run_cons, Option.bind_eq_some_iff] at ran
      obtain ⟨next, moved, rest⟩ := ran
      obtain ⟨mid, at_', first⟩ := alone_step moved at_
      obtain ⟨job', final, later⟩ := ih rest at_'
      refine ⟨job', final, ?_⟩
      have split : answersTo index (event :: es) =
          answersTo index [event] ++ answersTo index es := by
        simp only [answersTo, ← List.filterMap_append, List.singleton_append]
      rw [split]
      exact Machine.run_append first later

/-- A job that is begun on the way. -/
theorem alone_of_begun {es : List (Event C R ι)}
    (ran : (machine program).run pool es = some pool') {index : Nat} {i : ι}
    {job : Job C R (α i)} (new : pool.jobs.length ≤ index)
    (at_ : pool'.jobs[index]? = some ⟨i, job⟩) :
    (Job.machine (program i)).run (Job.begin (program i)) (answersTo index es) = some job := by
  induction es generalizing pool with
  | nil =>
      cases ran
      rw [List.getElem?_eq_none new] at at_
      cases at_
  | cons event es ih =>
      rw [Machine.run_cons, Option.bind_eq_some_iff] at ran
      obtain ⟨next, moved, rest⟩ := ran
      cases effect_of_step moved with
      | began other =>
          rcases Nat.lt_or_eq_of_le new with later | here
          · exact ih rest (by simpa using Nat.succ_le_of_lt later)
          · have begun : (pool.jobs ++ [⟨other, Job.begin (program other)⟩])[index]? =
                some ⟨other, Job.begin (program other)⟩ := by
              rw [← here, List.getElem?_concat_length]
            obtain ⟨job', final, alone⟩ := alone_run rest begun
            cases final.symm.trans at_
            exact alone
      | @answered other j before after answer found heard =>
          have apart : other ≠ index := by
            rintro rfl
            exact absurd (List.getElem?_eq_some_iff.1 found).1 (Nat.not_lt.2 new)
          have skipped : answersTo index (.answer other answer :: es) = answersTo index es := by
            simp [answersTo, apart]
          rw [skipped]
          exact ih rest (by simpa using new)

/-- **Jobs do not meet.**  In every interleaving, a job is where its program comes alone,
with the answers given to it. -/
theorem run_alone {es : List (Event C R ι)} (ran : (machine program).run empty es = some pool)
    {index : Nat} {i : ι} {job : Job C R (α i)} (at_ : pool.jobs[index]? = some ⟨i, job⟩) :
    (Job.machine (program i)).run (Job.begin (program i)) (answersTo index es) = some job :=
  alone_of_begun ran (Nat.zero_le index) at_

end Step

end Pool

end Pool

/-! ## Bounds -/

/-- A program that neither traps nor listens, and completes between so many and so many
times. -/
inductive Between : Nat → Nat → Callback C R α → Prop where
  | done (hi : Nat) : Between 0 hi .done
  | complete {lo hi : Nat} {result : α} {rest : Callback C R α} (rest_ : Between lo hi rest) :
      Between (lo + 1) (hi + 1) (.complete result rest)
  | atMost {lo hi : Nat} {program : Callback C R α} (between : Between (lo + 1) hi program) :
      Between lo hi program
  | call {lo hi : Nat} {c : C} {answered : R c → Callback C R α}
      (answered_ : ∀ reply, Between lo hi (answered reply)) : Between lo hi (.call c answered)

section Between

variable {program : Callback C R α} {lo hi : Nat} {job job' : Job C R α}

/-- The answer to the only call. -/
theorem answer_call {completions : List α} {c : C} {answered : R c → Callback C R α}
    {answer : Answer C R}
    (moved : (⟨completions, [.call c answered], false⟩ : Job C R α).answer answer = some job) :
    job = Job.proceed (answered (answer.reply c)) ⟨completions, [], false⟩ := by
  obtain ⟨wait, reply⟩ := answer
  cases wait with
  | zero =>
      cases moved
      rfl
  | succ wait => simp [Job.answer] at moved

/-- The rule for one completion at the end. -/
theorem between_once (result : α) : Between 1 1 (.complete result (.done : Callback C R α)) :=
  .complete (.done 0)

/-- A job within its bounds: what it completed with, and what it still may. -/
inductive Owes (lo hi : Nat) : Job C R α → Prop where
  | nothing {completions : List α} (atLeast : lo ≤ completions.length)
      (atMost : completions.length ≤ hi) : Owes lo hi ⟨completions, [], false⟩
  | waiting {completions : List α} {c : C} {answered : R c → Callback C R α} {least most : Nat}
      (answered_ : ∀ reply, Between least most (answered reply))
      (atLeast : lo ≤ completions.length + least) (atMost : completions.length + most ≤ hi) :
      Owes lo hi ⟨completions, [.call c answered], false⟩

theorem owes_proceed {least most : Nat} (between : Between least most program)
    {completions : List α} (atLeast : lo ≤ completions.length + least)
    (atMost : completions.length + most ≤ hi) :
    Owes lo hi (Job.proceed program ⟨completions, [], false⟩) := by
  induction between generalizing completions with
  | done most => exact .nothing atLeast (Nat.le_trans (Nat.le_add_right ..) atMost)
  | @complete least most result rest _ ih =>
      have grown : (completions ++ [result]).length = completions.length + 1 := by simp
      exact ih (by rw [grown]; omega) (by rw [grown]; omega)
  | atMost _ ih => exact ih (by omega) atMost
  | call answered_ => exact .waiting answered_ atLeast atMost

theorem owes_begin (between : Between lo hi program) : Owes lo hi (Job.begin program) :=
  owes_proceed between (Nat.le_add_left ..) (Nat.le_of_eq (Nat.zero_add hi))

theorem owes_answer {answer : Answer C R} (owes : Owes lo hi job)
    (moved : job.answer answer = some job') : Owes lo hi job' := by
  cases owes with
  | nothing => simp [Job.answer] at moved
  | waiting answered_ atLeast atMost =>
      rw [answer_call moved]
      exact owes_proceed (answered_ _) atLeast atMost

/-- **The bounds hold of every job**, in every interleaving. -/
theorem Pool.owes {ι : Type x} {α : ι → Type w} {program : (i : ι) → Callback C R (α i)}
    {pool : Pool C R α} (reached : (Pool.machine program).Reachable pool) {i : ι}
    (between : Between lo hi (program i)) {job : Job C R (α i)} (member : ⟨i, job⟩ ∈ pool.jobs) :
    Owes lo hi job := by
  have all : ∀ job : Job C R (α i), ⟨i, job⟩ ∈ pool.jobs → Owes lo hi job :=
    reached.invariant
      (I := fun pool => ∀ job : Job C R (α i), ⟨i, job⟩ ∈ pool.jobs → Owes lo hi job)
      (by
        rintro _ rfl job member
        cases member)
      (by
        intro pool event pool' _ owes _ moved job member
        cases Pool.effect_of_step moved with
        | began other =>
            rcases List.mem_append.1 member with old | new
            · exact owes job old
            · cases List.mem_singleton.1 new
              exact owes_begin between
        | @answered index j before after answer at_ heard =>
            rcases List.mem_or_eq_of_mem_set member with old | new
            · exact owes job old
            · cases new
              exact owes_answer (owes before (List.mem_of_getElem? at_)) heard)
  exact all job member

end Between

/-! ## Listeners -/

section Listeners

variable {c : C} {answered : R c → Callback C R α} {heard : R c → Option α}
  {whole : Callback C R α} {answers : List (Answer C R)} {job : Job C R α}

/-- A listener, some answers later: it has not trapped before, and passed each on. -/
theorem completions_listening (trapped : ∀ reply, heard reply = none → answered reply = .trap)
    (passed : ∀ reply result, heard reply = some result → answered reply = .complete result .done)
    {completions : List α} {isTrapped : Bool}
    (ran : (Job.machine whole).run ⟨completions, [.listen c answered], isTrapped⟩ answers =
      some job) (runs : job.isTrapped = false) :
    isTrapped = false ∧ job.completions.map some =
      completions.map some ++ answers.map fun answer => heard (answer.reply c) := by
  induction answers generalizing completions isTrapped with
  | nil =>
      cases ran
      exact ⟨runs, (List.append_nil _).symm⟩
  | cons answer rest ih =>
      rw [Machine.run_cons, Option.bind_eq_some_iff] at ran
      obtain ⟨next, moved, later⟩ := ran
      obtain ⟨wait, reply⟩ := answer
      cases wait with
      | succ wait => simp [Job.machine, Job.answer] at moved
      | zero =>
          cases moved
          cases said : heard (reply c) with
          | none =>
              rw [trapped _ said] at later
              exact absurd (ih later).1 (by decide)
          | some result =>
              rw [passed _ _ said] at later
              obtain ⟨untrapped, same⟩ := ih later
              refine ⟨untrapped, same.trans ?_⟩
              simp [said]

/-- **A listener passes on every answer**, once and in order, as long as it has not
trapped. -/
theorem completions_listen (trapped : ∀ reply, heard reply = none → answered reply = .trap)
    (passed : ∀ reply result, heard reply = some result → answered reply = .complete result .done)
    (ran : (Job.machine whole).run (Job.begin (.listen c answered)) answers = some job)
    (runs : job.isTrapped = false) :
    job.completions.map some = answers.map fun answer => heard (answer.reply c) :=
  (completions_listening trapped passed ran runs).2

end Listeners

end Remindify.Theory
