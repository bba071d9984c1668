/-
# Profile.DisplayName -- the name on the Profile screen, and what is said about it

`ProfileViewController.saveNameButtonPressed` hands the name in the field to
`updateDisplayName` and switches its button off until the field is edited again.  The
change is committed on the task queue of the user, one after the other; its completion
comes on the main queue and puts one more block there, which writes the warning label.
An empty name, and a name nobody is signed in for, are reported by such a block at once.

A `Naming` is one Profile screen that is alive, with the task queues, the main queue and
the names the accounts have.  The screen is left, and released, in Profile.NameVisit.

* `tickets_step`: every press is numbered, and is reported once or waits;
* `throughout_inOrder_iff`: the exact runs in which no report overtakes an older one;
* `savable`: a name in the field that was neither loaded nor handed over can be saved.
-/
import Mathlib.Data.List.Perm.Basic
import Remindify.Theory.Machine
import Remindify.Theory.Tickets
import Remindify.Network.Completions

namespace Remindify.Network

set_option autoImplicit false

/-- `updateDisplayName`: the change it commits. -/
def FirebaseService.updateDisplayName (currentUser : Option User) (displayName : String) :
    Except NSError (User × String) :=
  match currentUser with
  | some user => .ok (user, displayName)
  | none => .error Service.userNotAuthenticated

/-- The program of the operation makes that change. -/
theorem Service.updateDisplayName_eq (auth : Authentication) (displayName : String) :
    Service.updateDisplayName auth displayName =
      match FirebaseService.updateDisplayName auth.currentUser displayName with
      | .ok (user, displayName) =>
          .call (.commitChanges user [.displayName (some displayName)]) fun error =>
            .complete error .done
      | .error error => .complete (some error) .done := by
  unfold Service.updateDisplayName FirebaseService.updateDisplayName
  cases auth.currentUser with
  | none => rfl
  | some user => rfl

end Remindify.Network

namespace Remindify.Profile

open Remindify.Theory
open Remindify.Network

set_option autoImplicit false

/-! ## The screen -/

inductive UIColor where
  | red
  | white
  deriving DecidableEq, Repr

structure WarningLabel where
  isHidden : Bool
  text : String
  textColor : UIColor
  deriving DecidableEq, Repr

/-- What a press of the button comes to. -/
inductive Outcome where
  | empty
  | failed (error : NSError)
  | updated
  deriving DecidableEq, Repr

/-- The completion of `updateDisplayName`, by its error. -/
def Outcome.ofError : Option NSError → Outcome
  | some error => .failed error
  | none => .updated

def Outcome.text : Outcome → String
  | .empty => "Name Field can't be empty"
  | .failed error => "Error updating user profile: " ++ error.localizedDescription
  | .updated => "User profile updated successfully"

/-- The block that writes the label: white after a success, and else as it was. -/
def Outcome.write (outcome : Outcome) (label : WarningLabel) : WarningLabel :=
  { isHidden := false
    text := outcome.text
    textColor := if outcome = .updated then .white else label.textColor }

/-- `ProfileViewController`, as far as the name goes. -/
structure Page where
  emailTextField : String
  nameTextField : String
  warningLabel : WarningLabel
  /-- `saveButton.isEnabled` -/
  isEnabled : Bool
  deriving DecidableEq, Repr

/-- `setupUI`; the text of the label is from the storyboard. -/
def setupUI : Page where
  emailTextField := ""
  nameTextField := ""
  warningLabel :=
    { isHidden := true
      text := "Password and Confirm Password does not match"
      textColor := .red }
  isEnabled := false

/-- `loadProfileInformation`; a field set to `nil` reads as empty. -/
def loadProfileInformation (currentUser : Option User) (names : String → Option String)
    (page : Page) : Page :=
  match currentUser with
  | some user =>
      { page with
        emailTextField := user.email.getD ""
        nameTextField := (names user.uid).getD "" }
  | none =>
      { page with
        warningLabel := { page.warningLabel with isHidden := false, text := "Error loading" } }

/-- `viewDidLoad`: the profile is loaded if there is somebody to load it for. -/
def viewDidLoad (currentUser : Option User) (names : String → Option String) : Page :=
  match currentUser with
  | some _ => loadProfileInformation currentUser names setupUI
  | none => setupUI

/-- `textFieldDidChange`, after the field has got another text. -/
def textFieldDidChange (page : Page) (text : String) : Page :=
  { page with nameTextField := text, isEnabled := true }

/-! ## The queues -/

/-- A press of the button: the name in the field, and who was signed in. -/
structure Press where
  name : String
  currentUser : Option User
  deriving DecidableEq, Repr

/-- A change of name on the task queue of a user, and the press that asked for it.  Each
`FIRUser` has a task queue of its own, and signing in makes a new one. -/
structure Task where
  press : Nat
  session : Nat
  uid : String
  displayName : String
  deriving DecidableEq, Repr

/-- What becomes of a task.  One that fails may have been stored all the same. -/
inductive Commit where
  | done
  | failed (error : NSError) (isStored : Bool)
  deriving DecidableEq, Repr

def Commit.error : Commit → Option NSError
  | .done => none
  | .failed error _ => some error

def Commit.isStored : Commit → Bool
  | .done => true
  | .failed _ isStored => isStored

/-- A block on the main queue: the completion of a task, or a write of the label. -/
inductive Block where
  | completion (press : Nat) (error : Option NSError)
  | label (press : Nat) (outcome : Outcome)
  deriving DecidableEq, Repr

def Block.completes : Block → Option Nat
  | .completion press _ => some press
  | .label .. => none

def Block.labels : Block → Option Nat
  | .completion .. => none
  | .label press _ => some press

/-- What a block reports, or will. -/
def Block.answer : Block → Nat × Outcome
  | .completion press error => (press, .ofError error)
  | .label press outcome => (press, outcome)

/-- A Profile screen, the queues behind it, and the names of the accounts. -/
structure Naming where
  page : Page
  /-- the name field is being edited, which is when the button is there -/
  isEditing : Bool
  currentUser : Option User
  /-- which `FIRUser` that is: the changes of the user so far -/
  session : Nat
  names : String → Option String
  tasks : List Task
  blocks : List Block
  /-- every press so far -/
  presses : List Press
  /-- the tasks that have been worked off -/
  commits : List (Task × Commit)
  /-- the labels written so far -/
  shown : List (Nat × Outcome)
  /-- the name loaded, or handed over last -/
  handed : String

namespace Naming

/-- The completion handed to `updateDisplayName`. -/
def updated (naming : Naming) (press : Nat) (error : Option NSError) : Naming :=
  { naming with blocks := naming.blocks ++ [.label press (.ofError error)] }

/-- `updateDisplayName`, with that completion. -/
def updateDisplayName (naming : Naming) (press : Nat) (displayName : String) : Naming :=
  match FirebaseService.updateDisplayName naming.currentUser displayName with
  | .ok (user, displayName) =>
      { naming with tasks := naming.tasks ++ [⟨press, naming.session, user.uid, displayName⟩] }
  | .error error => naming.updated press (some error)

/-- `saveNameButtonPressed`. -/
def saveNameButtonPressed (naming : Naming) : Naming :=
  let press := naming.presses.length
  let updatedName := naming.page.nameTextField
  let naming : Naming :=
    { naming with presses := naming.presses ++ [⟨updatedName, naming.currentUser⟩] }
  if updatedName.isEmpty then
    { naming with blocks := naming.blocks ++ [.label press .empty] }
  else
    let naming := naming.updateDisplayName press updatedName
    { naming with
      page := { naming.page with isEnabled := false }
      handed := updatedName }

/-- A task is worked off: the name is stored, or not, and the completion is put on the
main queue. -/
def commit (naming : Naming) (index : Nat) (task : Task) (result : Commit) : Naming :=
  { naming with
    names :=
      if result.isStored then Function.update naming.names task.uid (some task.displayName)
      else naming.names
    tasks := naming.tasks.eraseIdx index
    commits := naming.commits ++ [(task, result)]
    blocks := naming.blocks ++ [.completion task.press result.error] }

/-- The first block of the main queue runs. -/
def work (naming : Naming) : Option Naming :=
  match naming.blocks with
  | .completion press error :: blocks => some ({ naming with blocks }.updated press error)
  | .label press outcome :: blocks =>
      some { naming with
        blocks
        page := { naming.page with warningLabel := outcome.write naming.page.warningLabel }
        shown := naming.shown ++ [(press, outcome)] }
  | [] => none

end Naming

/-! ## The machine -/

namespace Naming

inductive Event where
  | beginEditing
  | endEditing
  | type (text : String)
  | saveName
  /-- the task queue of a `FIRUser` works off a task: its first -/
  | commit (task : Nat) (result : Commit)
  | work
  /-- somebody else is signed in now, or nobody -/
  | authChanged (currentUser : Option User)

def step (naming : Naming) : Event → Option Naming
  | .beginEditing => some { naming with isEditing := true }
  | .endEditing => some { naming with isEditing := false }
  | .type text =>
      if naming.isEditing then some { naming with page := textFieldDidChange naming.page text }
      else none
  | .saveName =>
      if naming.isEditing && naming.page.isEnabled then some naming.saveNameButtonPressed else none
  | .commit index result =>
      match naming.tasks[index]? with
      | some task =>
          if (naming.tasks.take index).all (fun earlier => earlier.session != task.session) then
            some (naming.commit index task result)
          else none
      | none => none
  | .work => naming.work
  | .authChanged currentUser =>
      some { naming with currentUser, session := naming.session + 1 }

/-- A Profile screen just loaded. -/
def loaded (currentUser : Option User) (names : String → Option String) : Naming :=
  { page := viewDidLoad currentUser names
    isEditing := false
    currentUser
    session := 0
    names
    tasks := []
    blocks := []
    presses := []
    commits := []
    shown := []
    handed := (viewDidLoad currentUser names).nameTextField }

def machine : Machine Naming Event where
  init naming := ∃ currentUser names, naming = loaded currentUser names
  step := step

/-- Ann's account. -/
def ann : User := ⟨"ann", some "ann@example.com"⟩

/-- The presses reported, written on the label or about to be. -/
def reported (naming : Naming) : List Nat :=
  naming.shown.map (·.1) ++ naming.blocks.filterMap Block.labels

/-- The presses that wait for their answer. -/
def unanswered (naming : Naming) : List Nat :=
  naming.blocks.filterMap Block.completes ++ naming.tasks.map (·.press)

/-- Everything has been answered and shown. -/
structure Settled (naming : Naming) : Prop where
  tasks : naming.tasks = []
  blocks : naming.blocks = []

/-- The condition on an event: nothing is reported while something older waits. -/
def OldestFirst (naming : Naming) : Event → Prop
  | .saveName =>
      naming.page.nameTextField.isEmpty = true ∨ naming.currentUser = none → naming.unanswered = []
  | .work => ∀ press error blocks, naming.blocks = .completion press error :: blocks →
      ∀ other ∈ naming.unanswered, press ≤ other
  | _ => True

/-! ## What an event does -/

section Effect

variable {naming naming' : Naming}

/-- The press an event makes. -/
def press (naming : Naming) : Press := ⟨naming.page.nameTextField, naming.currentUser⟩

/-- The screen and the presses once a name has been handed over. -/
def handOver (naming : Naming) : Naming :=
  { naming with
    page := { naming.page with isEnabled := false }
    presses := naming.presses ++ [naming.press]
    handed := naming.page.nameTextField }

/-- The effects an event has, every one of them. -/
inductive Effect (naming : Naming) : Event → Naming → Prop where
  | began : Effect naming .beginEditing { naming with isEditing := true }
  | ended : Effect naming .endEditing { naming with isEditing := false }
  | typed (text : String) :
      Effect naming (.type text) { naming with page := textFieldDidChange naming.page text }
  | refused (enabled : naming.page.isEnabled = true) (empty : naming.page.nameTextField = "") :
      Effect naming .saveName
        { naming with
          presses := naming.presses ++ [naming.press]
          blocks := naming.blocks ++ [.label naming.presses.length .empty] }
  | asked {user : User} (named : naming.page.nameTextField ≠ "")
      (signedIn : naming.currentUser = some user) :
      Effect naming .saveName
        { naming.handOver with
          tasks := naming.tasks ++
            [⟨naming.presses.length, naming.session, user.uid, naming.page.nameTextField⟩] }
  | rejected (named : naming.page.nameTextField ≠ "") (signedOut : naming.currentUser = none) :
      Effect naming .saveName
        { naming.handOver with
          blocks := naming.blocks ++
            [.label naming.presses.length (.failed Service.userNotAuthenticated)] }
  | committed {index : Nat} {task : Task} (at_ : naming.tasks[index]? = some task)
      (first : ∀ earlier ∈ naming.tasks.take index, earlier.session ≠ task.session)
      (result : Commit) :
      Effect naming (.commit index result) (naming.commit index task result)
  | completed {press : Nat} {error : Option NSError} {blocks : List Block}
      (queued : naming.blocks = .completion press error :: blocks) :
      Effect naming .work
        { naming with blocks := blocks ++ [.label press (.ofError error)] }
  | written {press : Nat} {outcome : Outcome} {blocks : List Block}
      (queued : naming.blocks = .label press outcome :: blocks) :
      Effect naming .work
        { naming with
          blocks
          page := { naming.page with warningLabel := outcome.write naming.page.warningLabel }
          shown := naming.shown ++ [(press, outcome)] }
  | authChanged (currentUser : Option User) :
      Effect naming (.authChanged currentUser)
        { naming with currentUser, session := naming.session + 1 }

/-- What a press does: it is refused, handed over, or reported for want of a user. -/
theorem effect_of_save (enabled : naming.page.isEnabled = true) :
    Effect naming .saveName naming.saveNameButtonPressed := by
  unfold saveNameButtonPressed
  dsimp only
  split
  · rename_i empty
    exact .refused enabled (String.isEmpty_iff.1 empty)
  · rename_i typed
    have named : naming.page.nameTextField ≠ "" := fun empty =>
      typed (String.isEmpty_iff.2 empty)
    cases signedIn : naming.currentUser with
    | some user =>
        simp only [updateDisplayName, FirebaseService.updateDisplayName]
        have effect := Effect.asked named signedIn
        simp only [handOver, press, signedIn] at effect
        exact effect
    | none =>
        simp only [updateDisplayName, FirebaseService.updateDisplayName, updated]
        have effect := Effect.rejected named signedIn
        simp only [handOver, press, signedIn] at effect
        exact effect

/-- **The effect of a step.** -/
theorem effect_of_step {event : Event} (moved : step naming event = some naming') :
    Effect naming event naming' := by
  cases event with
  | beginEditing =>
      cases moved
      exact .began
  | endEditing =>
      cases moved
      exact .ended
  | type text =>
      simp only [step] at moved
      split at moved
      · cases moved
        exact .typed text
      · cases moved
  | saveName =>
      simp only [step] at moved
      split at moved
      · rename_i there
        cases moved
        exact effect_of_save (Bool.and_eq_true_iff.1 there).2
      · cases moved
  | commit index result =>
      simp only [step] at moved
      split at moved
      · rename_i task at_
        split at moved
        · rename_i first
          cases moved
          refine .committed at_ (fun earlier member => ?_) result
          simpa using List.all_eq_true.1 first earlier member
        · cases moved
      · cases moved
  | work =>
      simp only [step, work] at moved
      split at moved
      · rename_i press error blocks queued
        cases moved
        exact .completed queued
      · rename_i press outcome blocks queued
        cases moved
        exact .written queued
      · cases moved
  | authChanged currentUser =>
      cases moved
      exact .authChanged currentUser

end Effect

/-! ## Every press is reported once -/

section Counts

variable {naming naming' : Naming} {event : Event}

/-- What an event does to the presses that are reported and those that wait, and what the
condition on it comes to. -/
inductive Counts (naming : Naming) (event : Event) (naming' : Naming) : Prop where
  | none (presses : naming'.presses.length = naming.presses.length)
      (reported : naming'.reported = naming.reported)
      (unanswered : naming.unanswered.Perm naming'.unanswered) (met : OldestFirst naming event)
  | issued (presses : naming'.presses.length = naming.presses.length + 1)
      (reported : naming'.reported = naming.reported)
      (unanswered : naming'.unanswered = naming.unanswered ++ [naming.presses.length])
      (met : OldestFirst naming event)
  | atOnce (presses : naming'.presses.length = naming.presses.length + 1)
      (reported : naming'.reported = naming.reported ++ [naming.presses.length])
      (unanswered : naming'.unanswered = naming.unanswered)
      (met_iff : OldestFirst naming event ↔ naming.unanswered = [])
  | settled {press : Nat} (presses : naming'.presses.length = naming.presses.length)
      (reported : naming'.reported = naming.reported ++ [press])
      (unanswered : naming.unanswered = press :: naming'.unanswered)
      (met_iff : OldestFirst naming event ↔ ∀ other ∈ naming.unanswered, press ≤ other)

theorem perm_of_commit {index : Nat} {task : Task} (at_ : naming.tasks[index]? = some task)
    (result : Commit) : naming.unanswered.Perm (naming.commit index task result).unanswered := by
  obtain ⟨inRange, here⟩ := List.getElem?_eq_some_iff.1 at_
  have split : (naming.tasks.map (·.press)).Perm
      (task.press :: (naming.tasks.eraseIdx index).map (·.press)) := by
    have erased := (List.getElem_cons_eraseIdx_perm inRange).symm.map (·.press)
    rwa [here, List.map_cons] at erased
  simp only [unanswered, commit, List.filterMap_append, List.filterMap_cons, Block.completes,
    List.filterMap_nil, List.append_assoc, List.singleton_append]
  exact split.append_left _

theorem counts_of_effect (effect : Effect naming event naming') :
    Counts naming event naming' := by
  cases effect with
  | began | ended | typed | authChanged => exact .none rfl rfl (List.Perm.refl _) trivial
  | refused enabled empty =>
      refine .atOnce (by simp) (by simp [reported, Block.labels]) ?_ ?_
      · simp [unanswered, Block.completes]
      · simp [OldestFirst, empty]
  | asked named signedIn =>
      refine .issued (by simp [handOver]) rfl ?_ ?_
      · simp [unanswered, handOver]
      · simp [OldestFirst, named, signedIn]
  | rejected named signedOut =>
      refine .atOnce (by simp [handOver]) ?_ ?_ ?_
      · simp [reported, handOver, Block.labels]
      · simp [unanswered, handOver, Block.completes]
      · simp [OldestFirst, signedOut]
  | committed at_ first result =>
      refine .none rfl ?_ (perm_of_commit at_ result) trivial
      simp [reported, commit, Block.labels]
  | @completed press error blocks queued =>
      refine @Counts.settled _ _ _ press rfl ?_ ?_ ?_
      · simp [reported, queued, Block.labels, List.filterMap_cons]
      · simp [unanswered, queued, Block.completes, List.filterMap_cons]
      · simp [OldestFirst, queued]
  | written queued =>
      refine .none rfl ?_ (List.Perm.of_eq ?_) ?_
      · simp [reported, queued, Block.labels]
      · simp [unanswered, queued, Block.completes, List.filterMap_cons]
      · simp [OldestFirst, queued]

/-- The presses are numbered, and each is reported or waits, whatever became of others. -/
theorem tickets_step (others : List Nat)
    (tickets : Tickets naming.presses.length (others ++ naming.reported) naming.unanswered)
    (moved : step naming event = some naming') :
    Tickets naming'.presses.length (others ++ naming'.reported) naming'.unanswered := by
  cases counts_of_effect (effect_of_step moved) with
  | none presses reported unanswered =>
      rw [presses, reported]
      exact tickets.congr unanswered
  | issued presses reported unanswered =>
      rw [presses, reported, unanswered]
      exact tickets.issue
  | atOnce presses reported unanswered =>
      rw [presses, reported, unanswered, ← List.append_assoc]
      exact tickets.issue_settled
  | settled presses reported unanswered =>
      rw [presses, reported, ← List.append_assoc]
      exact tickets.settle (unanswered ▸ List.Perm.refl _)

/-- Each press is reported or waits. -/
def Counted (naming : Naming) : Prop :=
  Tickets naming.presses.length naming.reported naming.unanswered

theorem counted_loaded (currentUser : Option User) (names : String → Option String) :
    Counted (loaded currentUser names) := Tickets.none

theorem counted_step (counted : Counted naming) (moved : step naming event = some naming') :
    Counted naming' := tickets_step [] counted moved

/-- **One event** keeps the reports in order exactly when it meets the condition. -/
theorem inOrder_step_iff (counted : Counted naming) (inOrder : InOrder naming.reported)
    (moved : step naming event = some naming') :
    InOrder naming'.reported ↔ OldestFirst naming event := by
  cases counts_of_effect (effect_of_step moved) with
  | none presses reported unanswered met =>
      rw [reported]
      exact iff_of_true inOrder met
  | issued presses reported unanswered met =>
      rw [reported]
      exact iff_of_true inOrder met
  | atOnce presses reported unanswered met_iff =>
      rw [reported, met_iff]
      exact counted.inOrder_issue_iff inOrder
  | settled presses reported unanswered met_iff =>
      rw [reported, met_iff]
      exact counted.inOrder_settle_iff inOrder (unanswered ▸ List.mem_cons_self ..)

end Counts

/-- **When no report overtakes another.**  In every run, of presses, commits and changes
of the user, the presses are reported in their order throughout if and only if nothing is
reported at once, and nothing answered, while something older waits. -/
theorem throughout_inOrder_iff (currentUser : Option User) (names : String → Option String)
    (es : List Event) :
    machine.Throughout (fun naming => InOrder naming.reported) (loaded currentUser names) es ↔
      machine.RunOk OldestFirst (loaded currentUser names) es :=
  Machine.throughout_iff_runOk (M := machine) (I := Counted)
    (P := fun naming => InOrder naming.reported)
    (fun _ _ _ counted _ moved _ => counted_step counted moved)
    (fun _ _ _ counted inOrder moved => inOrder_step_iff counted inOrder moved)
    (counted_loaded currentUser names) rfl es

/-! ## The field and the button -/

section Kept

variable {naming naming' : Naming} {event : Event}

/-- While the button is off, the field holds what was loaded or handed over last, and a
name that was handed over is that of the last press. -/
structure Kept (naming : Naming) : Prop where
  field : naming.page.isEnabled = false → naming.page.nameTextField = naming.handed
  last : naming.page.isEnabled = false → naming.presses ≠ [] →
    ∃ press, naming.presses.getLast? = some press ∧
      press.name = naming.page.nameTextField ∧ press.name ≠ ""

theorem kept_handOver (named : naming.page.nameTextField ≠ "") : Kept naming.handOver where
  field _ := rfl
  last _ _ := ⟨naming.press, List.getLast?_concat, rfl, named⟩

theorem kept_step (kept : Kept naming) (moved : step naming event = some naming') :
    Kept naming' := by
  cases effect_of_step moved with
  | began | ended | committed | completed | written | authChanged => exact ⟨kept.field, kept.last⟩
  | typed text => exact ⟨fun off => (nomatch off), fun off => (nomatch off)⟩
  | refused enabled =>
      refine ⟨kept.field, fun off => ?_⟩
      cases enabled.symm.trans off
  | asked named => exact ⟨(kept_handOver named).field, (kept_handOver named).last⟩
  | rejected named => exact ⟨(kept_handOver named).field, (kept_handOver named).last⟩

theorem kept_of_reach {ok : Naming → Event → Prop} (reached : machine.Reach ok naming) :
    Kept naming :=
  reached.invariant (I := Kept)
    (by
      rintro _ ⟨currentUser, names, rfl⟩
      exact ⟨fun _ => rfl, fun _ made => absurd rfl made⟩)
    (fun _ _ _ _ kept _ moved => kept_step kept moved)

end Kept

/-! ## Nothing is stuck -/

section Drain

variable {naming : Naming}

/-- What the queues need: a turn of the task queue and two of the main queue for a task. -/
def toDo (naming : Naming) : Nat :=
  3 * naming.tasks.length + naming.blocks.length +
    naming.blocks.countP (·.completes.isSome)

/-- A turn of a queue, if there is anything on one: the screen keeps its name, its button
and its user. -/
structure Turned (naming naming' : Naming) : Prop where
  less : naming'.toDo < naming.toDo
  field : naming'.page.nameTextField = naming.page.nameTextField
  button : naming'.page.isEnabled = naming.page.isEnabled
  currentUser : naming'.currentUser = naming.currentUser

theorem turned_of_unsettled (unsettled : ¬ naming.Settled) :
    ∃ event naming', (event = .work ∨ event = .commit 0 .done) ∧
      step naming event = some naming' ∧ Turned naming naming' := by
  cases queued : naming.blocks with
  | nil =>
      cases worked : naming.tasks with
      | nil => exact absurd ⟨worked, queued⟩ unsettled
      | cons task tasks =>
          have moved : step naming (.commit 0 .done) = some (naming.commit 0 task .done) := by
            simp [step, worked]
          refine ⟨_, _, Or.inr rfl, moved, ?_, rfl, rfl, rfl⟩
          simp only [toDo, commit, worked, queued, Block.completes, List.eraseIdx_cons_zero,
            List.nil_append, List.length_cons, List.length_nil, List.countP_cons, List.countP_nil,
            Option.isSome_some, if_true]
          omega
  | cons block blocks =>
      cases block with
      | completion press error =>
          have moved : step naming .work =
              some ({ naming with blocks }.updated press error) := by
            simp [step, work, queued]
          refine ⟨_, _, Or.inl rfl, moved, ?_, rfl, rfl, rfl⟩
          simp only [toDo, updated, queued, Block.completes, List.length_append, List.length_cons,
            List.length_nil, List.countP_append, List.countP_cons, List.countP_nil,
            Option.isSome_some, Option.isSome_none, Bool.false_eq_true, if_true, if_false]
          omega
      | label press outcome =>
          let label := outcome.write naming.page.warningLabel
          have moved : step naming .work = some { naming with
              blocks
              page := { naming.page with warningLabel := label }
              shown := naming.shown ++ [(press, outcome)] } := by
            simp only [step, work, queued, label]
          refine ⟨_, _, Or.inl rfl, moved, ?_, rfl, rfl, rfl⟩
          simp [toDo, queued, Block.completes]

/-- **The queues can be emptied**, with every task done. -/
theorem drained (naming : Naming) :
    ∃ es naming', (∀ e ∈ es, e = .work ∨ e = .commit 0 .done) ∧
      machine.run naming es = some naming' ∧ naming'.Settled ∧
        naming'.page.nameTextField = naming.page.nameTextField ∧
          naming'.page.isEnabled = naming.page.isEnabled ∧
            naming'.currentUser = naming.currentUser := by
  induction toDo_ : naming.toDo using Nat.strong_induction_on generalizing naming with
  | _ n ih =>
      by_cases settled : naming.Settled
      · exact ⟨[], naming, fun e member => (nomatch member), rfl, settled, rfl, rfl, rfl⟩
      · obtain ⟨event, next, turn, moved, turned⟩ := turned_of_unsettled settled
        obtain ⟨es, naming', turns, ran, settled', field, button, currentUser⟩ :=
          ih next.toDo (toDo_ ▸ turned.less) next rfl
        refine ⟨event :: es, naming', List.forall_mem_cons.2 ⟨turn, turns⟩, ?_, settled',
          field.trans turned.field, button.trans turned.button,
          currentUser.trans turned.currentUser⟩
        have moved' : machine.step naming event = some next := moved
        rw [Machine.run_cons, moved']
        exact ran

/-- A press with nothing in the queues, its task done and shown. -/
theorem saved_of_settled (settled : naming.Settled) (enabled : naming.page.isEnabled = true)
    {user : User} (signedIn : naming.currentUser = some user)
    (named : naming.page.nameTextField ≠ "") :
    ∃ saved, machine.run naming [.beginEditing, .saveName, .commit 0 .done, .work, .work] =
        some saved ∧ saved.Settled ∧
          saved.names user.uid = some naming.page.nameTextField ∧
            saved.page.warningLabel.text = Outcome.updated.text := by
  simp [machine, step, enabled, saveNameButtonPressed, named, updateDisplayName,
    FirebaseService.updateDisplayName, signedIn, settled.tasks, settled.blocks, commit, work,
    updated, Commit.isStored, Commit.error, Outcome.ofError, Outcome.write]
  exact ⟨rfl, rfl⟩

end Drain

/-- **No name is stuck in the field.**  Whatever has happened, a name that was neither
loaded nor handed over can be saved as it is: there is a run without any typing that ends
settled, with the account of that name and the label saying so. -/
theorem savable {naming : Naming} (reached : machine.Reachable naming)
    (unsaved : naming.page.nameTextField ≠ naming.handed)
    (named : naming.page.nameTextField ≠ "") {user : User}
    (signedIn : naming.currentUser = some user) :
    ∃ es saved, (∀ e ∈ es, e = .work ∨ e = .commit 0 .done) ∧
      machine.run naming (es ++ [.beginEditing, .saveName, .commit 0 .done, .work, .work]) =
        some saved ∧ saved.Settled ∧
          saved.names user.uid = some naming.page.nameTextField ∧
            saved.page.warningLabel.text = Outcome.updated.text := by
  have enabled : naming.page.isEnabled = true := by
    by_contra off
    exact unsaved ((kept_of_reach reached).field (Bool.eq_false_iff.2 off))
  obtain ⟨es, empty, turns, ran, settled, field, button, currentUser⟩ := drained naming
  rw [← field] at named ⊢
  obtain ⟨saved, ran', rest⟩ := saved_of_settled settled (button.trans enabled)
    (currentUser.trans signedIn) named
  exact ⟨es, saved, turns, Machine.run_append ran ran', rest⟩

/-- Ann has typed her name. -/
def annTyped : Naming :=
  (machine.run (loaded (some ann) fun _ => none) [.beginEditing, .type "Ann"]).getD
    (loaded none fun _ => none)

theorem annTyped_savable :
    ∃ es saved, (∀ e ∈ es, e = .work ∨ e = .commit 0 .done) ∧
      machine.run annTyped (es ++ [.beginEditing, .saveName, .commit 0 .done, .work, .work]) =
        some saved ∧ saved.Settled ∧ saved.names "ann" = some "Ann" ∧
          saved.page.warningLabel.text = Outcome.updated.text := by
  have ran : machine.run (loaded (some ann) fun _ => none) [.beginEditing, .type "Ann"] =
      some annTyped := rfl
  have signedIn : annTyped.currentUser = some ann := rfl
  exact savable (Machine.reachable_of_run ⟨_, _, rfl⟩ ran) (by decide) (by decide) signedIn

end Naming

end Remindify.Profile
