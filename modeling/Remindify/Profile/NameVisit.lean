/-
# Profile.NameVisit -- a Profile screen that is left and released

`ProfileViewController` is popped with Back, and released as soon as nothing holds it.
The completion of `updateDisplayName` and the blocks it puts on the main queue hold it
weakly, and write nothing once it is released; the block that reports an empty name holds
it strongly, so the screen lives until that one has run.

A `Visit` is a `Naming` with the place of its screen.

* `reachable_of_alive`: until the release it is the screen of Profile.DisplayName;
* `reported_once`: every press is reported once, on the label or to a screen that is
  released, and the latter never for an empty name.
-/
import Remindify.Profile.DisplayName

namespace Remindify.Profile

open Remindify.Theory
open Remindify.Network

set_option autoImplicit false

/-- The events that need the screen in front. -/
def Naming.Event.onScreen : Naming.Event → Bool
  | .beginEditing | .endEditing | .type _ | .saveName => true
  | .commit .. | .work | .authChanged _ => false

/-- Where the controller is. -/
inductive Place where
  | onStack
  | left
  | released
  deriving DecidableEq, Repr

/-- A Profile screen from its loading on. -/
structure Visit where
  naming : Naming
  place : Place
  /-- the reports whose block found the controller released -/
  missed : List (Nat × Outcome)

namespace Visit

/-- The first block of the main queue runs: `self?` is `nil` once the controller is
released. -/
def work (visit : Visit) : Option Visit :=
  match visit.place, visit.naming.blocks with
  | .released, .label press outcome :: blocks =>
      some { visit with
        naming := { visit.naming with blocks }
        missed := visit.missed ++ [(press, outcome)] }
  | _, _ => visit.naming.work.map fun naming => { visit with naming }

inductive Event where
  | on (event : Naming.Event)
  /-- Back -/
  | leave
  /-- nothing holds the controller any more -/
  | release

def step (visit : Visit) : Event → Option Visit
  | .on .work => visit.work
  | .on event =>
      if event.onScreen && visit.place != .onStack then none
      else (visit.naming.step event).map fun naming => { visit with naming }
  | .leave =>
      if visit.place = .onStack then
        some { visit with naming := { visit.naming with isEditing := false }, place := .left }
      else none
  | .release =>
      if visit.place = .left ∧ ∀ block ∈ visit.naming.blocks, block.answer.2 ≠ .empty then
        some { visit with place := .released }
      else none

/-- A Profile screen just loaded. -/
def loaded (currentUser : Option User) (names : String → Option String) : Visit :=
  ⟨Naming.loaded currentUser names, .onStack, []⟩

def machine : Machine Visit Event where
  init visit := ∃ currentUser names, visit = loaded currentUser names
  step := step

/-! ## What an event does -/

section Effect

variable {visit visit' : Visit} {event : Event}

/-- The effects an event has, every one of them. -/
inductive Effect (visit : Visit) : Event → Visit → Prop where
  | moved {event : Naming.Event} {naming : Naming}
      (there : event.onScreen = true → visit.place = .onStack)
      (ran : visit.naming.step event = some naming) :
      Effect visit (.on event) { visit with naming }
  | missed {press : Nat} {outcome : Outcome} {blocks : List Block}
      (released : visit.place = .released)
      (queued : visit.naming.blocks = .label press outcome :: blocks) :
      Effect visit (.on .work)
        { visit with
          naming := { visit.naming with blocks }
          missed := visit.missed ++ [(press, outcome)] }
  | left (here : visit.place = .onStack) :
      Effect visit .leave
        { visit with naming := { visit.naming with isEditing := false }, place := .left }
  | released (away : visit.place = .left)
      (heard : ∀ block ∈ visit.naming.blocks, block.answer.2 ≠ .empty) :
      Effect visit .release { visit with place := .released }

theorem effect_of_work (moved : visit.work = some visit') : Effect visit (.on .work) visit' := by
  unfold work at moved
  split at moved
  · rename_i press outcome blocks released queued
    cases moved
    exact .missed released queued
  · obtain ⟨naming, ran, rfl⟩ := Option.map_eq_some_iff.1 moved
    exact .moved (fun onScreen => nomatch onScreen) ran

/-- **The effect of a step.** -/
theorem effect_of_step (moved : step visit event = some visit') : Effect visit event visit' := by
  cases event with
  | on event =>
      by_cases worked : event = .work
      · subst worked
        exact effect_of_work moved
      · rw [step] at moved
        · split at moved
          · cases moved
          · rename_i there
            obtain ⟨naming, ran, rfl⟩ := Option.map_eq_some_iff.1 moved
            refine .moved (fun onScreen => ?_) ran
            simpa [onScreen] using there
        · exact worked
  | leave =>
      simp only [step] at moved
      split at moved
      · rename_i here
        cases moved
        exact .left here
      · cases moved
  | release =>
      simp only [step] at moved
      split at moved
      · rename_i gone
        cases moved
        exact .released gone.1 gone.2
      · cases moved

end Effect

/-- **Until it is released**, the screen is the one of the living: Back ends the editing. -/
theorem reachable_of_alive {visit : Visit} (reached : machine.Reachable visit)
    (alive : visit.place ≠ .released) : Naming.machine.Reachable visit.naming := by
  refine reached.invariant
    (I := fun visit => visit.place ≠ .released → Naming.machine.Reachable visit.naming) ?_ ?_ alive
  · rintro _ ⟨currentUser, names, rfl⟩ _
    exact .init ⟨currentUser, names, rfl⟩
  · intro visit event visit' _ living _ moved alive
    cases effect_of_step moved with
    | moved there ran => exact (living alive).step trivial ran
    | missed released => exact absurd released alive
    | left here => exact (living (by simp [here])).step (e := .endEditing) trivial rfl
    | released => exact absurd rfl alive

/-! ## Every press is reported once -/

section Accounted

variable {visit visit' : Visit} {event : Event}

/-- Each press is reported, found the controller released, or waits; a controller is not
released as long as an empty name is to be reported. -/
structure Accounted (visit : Visit) : Prop where
  tickets : Tickets visit.naming.presses.length
    (visit.missed.map (·.1) ++ visit.naming.reported) visit.naming.unanswered
  alive : visit.place ≠ .released → visit.missed = []
  held : visit.place = .released →
    ∀ block ∈ visit.naming.blocks, block.answer.2 ≠ .empty
  heard : ∀ answer ∈ visit.missed, answer.2 ≠ .empty

/-- Without its screen a `Naming` gets no empty name to report. -/
theorem held_step {naming naming' : Naming} {event : Naming.Event}
    (held : ∀ block ∈ naming.blocks, block.answer.2 ≠ .empty) (offScreen : event.onScreen = false)
    (moved : naming.step event = some naming') :
    ∀ block ∈ naming'.blocks, block.answer.2 ≠ .empty := by
  have ofError : ∀ error, Outcome.ofError error ≠ .empty := by
    intro error
    cases error <;> exact fun same => nomatch same
  cases Naming.effect_of_step moved with
  | began | ended | typed | refused | asked | rejected => cases offScreen
  | authChanged => exact held
  | @committed index task at_ first result =>
      intro block member
      rcases List.mem_append.1 member with old | new
      · exact held block old
      · rw [List.mem_singleton.1 new]
        exact ofError _
  | completed queued =>
      rw [queued] at held
      intro block member
      rcases List.mem_append.1 member with old | new
      · exact held block (List.mem_cons_of_mem _ old)
      · rw [List.mem_singleton.1 new]
        exact ofError _
  | written queued =>
      rw [queued] at held
      exact fun block member => held block (List.mem_cons_of_mem _ member)

/-- A block that finds the controller released takes its press from those to be reported. -/
theorem tickets_missed (accounted : Accounted visit) {press : Nat} {outcome : Outcome}
    {blocks : List Block} (queued : visit.naming.blocks = .label press outcome :: blocks) :
    Tickets visit.naming.presses.length
      ((visit.missed ++ [(press, outcome)]).map (·.1) ++
        Naming.reported { visit.naming with blocks })
      (Naming.unanswered { visit.naming with blocks }) := by
  have tickets := accounted.tickets
  simp only [Naming.reported, Naming.unanswered, queued, List.filterMap_cons, Block.labels,
    Block.completes] at tickets ⊢
  refine Tickets.settled_congr tickets ?_
  rw [List.map_append, List.append_assoc]
  exact List.perm_middle.append_left _

theorem accounted_step (accounted : Accounted visit) (moved : step visit event = some visit') :
    Accounted visit' := by
  cases effect_of_step moved with
  | @moved event naming there ran =>
      refine ⟨Naming.tickets_step _ accounted.tickets ran, accounted.alive, fun released => ?_,
        accounted.heard⟩
      refine held_step (accounted.held released) (Bool.eq_false_iff.2 fun onScreen => ?_) ran
      cases released.symm.trans (there onScreen)
  | missed released queued =>
      have held := accounted.held released
      rw [queued] at held
      refine ⟨tickets_missed accounted queued, fun alive => absurd released alive,
        fun _ block member => held block (List.mem_cons_of_mem _ member), ?_⟩
      intro answer member
      rcases List.mem_append.1 member with old | new
      · exact accounted.heard answer old
      · rw [List.mem_singleton.1 new]
        exact held _ List.mem_cons_self
  | left here =>
      exact ⟨accounted.tickets, fun _ => accounted.alive (by simp [here]),
        fun gone => (nomatch gone), accounted.heard⟩
  | released away heard =>
      exact ⟨accounted.tickets, fun alive => absurd rfl alive, fun _ => heard, accounted.heard⟩

end Accounted

/-- **Every press is reported, once.**  When everything has been answered and every block
has run, the label has been written for each press exactly once, or the block that would
have has found the controller released, which never happens to an empty name. -/
theorem reported_once {visit : Visit} (reached : machine.Reachable visit)
    (settled : visit.naming.Settled) :
    (∀ press < visit.naming.presses.length,
        (visit.naming.shown.map (·.1) ++ visit.missed.map (·.1)).count press = 1) ∧
      (visit.place ≠ .released → visit.missed = []) ∧
        ∀ answer ∈ visit.missed, answer.2 ≠ .empty := by
  have accounted : Accounted visit := reached.invariant (I := Accounted)
    (by
      rintro _ ⟨currentUser, names, rfl⟩
      exact ⟨Tickets.none, fun _ => rfl, fun gone => (nomatch gone),
        fun _ missed => (nomatch missed)⟩)
    (fun _ _ _ _ accounted _ moved => accounted_step accounted moved)
  refine ⟨fun press made => ?_, accounted.alive, accounted.heard⟩
  have tickets := accounted.tickets
  simp only [Naming.reported, Naming.unanswered, settled.tasks, settled.blocks, List.filterMap_nil,
    List.map_nil, List.append_nil] at tickets
  rw [List.perm_append_comm.count_eq]
  exact tickets.count_eq_one made

/-- Ann saves the empty name, and then hers while that is being reported, and leaves
before her name is stored. -/
def annLeft : Visit :=
  (machine.run (loaded (some Naming.ann) fun _ => none)
    [.on .beginEditing, .on (.type ""), .on .saveName, .on (.type "Ann"), .on .saveName, .leave,
      .on .work, .release, .on (.commit 0 .done), .on .work, .on .work]).getD
        (loaded none fun _ => none)

theorem annLeft_once :
    (annLeft.naming.shown.map (·.1) ++ annLeft.missed.map (·.1)).count 1 = 1 := by
  have ran : machine.run (loaded (some Naming.ann) fun _ => none)
      [.on .beginEditing, .on (.type ""), .on .saveName, .on (.type "Ann"), .on .saveName, .leave,
        .on .work, .release, .on (.commit 0 .done), .on .work, .on .work] = some annLeft := rfl
  exact (reported_once (Machine.reachable_of_run ⟨_, _, rfl⟩ ran) ⟨rfl, rfl⟩).1 1 (by decide)

end Visit

end Remindify.Profile
