/-
# Network.InFlight -- operations of the service under way at the same time

The service is shared, and nothing waits: a screen may save while the list loads, the
password changes and an image is uploaded, and Firebase answers in whatever order.  A
`Flight` is the operations begun so far, each with whoever was signed in when it was; an
answer is given to any of them.

* `answered_once`: none completes twice, and one with an answer in every branch completes
  once its last callback has come;
* `snapshots_delivered`: the listener of `loadReminders` passes on every snapshot.
-/
import Remindify.Theory.Jobs
import Remindify.Network.Completions

namespace Remindify.Network

open Remindify.Theory

set_option autoImplicit false

/-- An operation, and what it finds when it is called. -/
structure Request where
  operation : Operation
  auth : Authentication

def Request.program (request : Request) : Service request.operation.Result :=
  request.operation.program request.auth

/-- The operations under way, and those that are over. -/
abbrev Flight := Pool FirebaseCall Reply fun request : Request => request.operation.Result

namespace Flight

/-- An operation is called, or Firebase answers one. -/
abbrev Event := Pool.Event FirebaseCall Reply Request

def machine : Machine Flight Event := Pool.machine Request.program

end Flight

/-! ## Bounds -/

section Bounds

variable {operation : Operation} {auth : Authentication}

/-- **The operations with an answer in every branch** complete once. -/
theorem between_of_isTotal (total : operation.isTotal = true) :
    Between 1 1 (operation.program auth) := by
  cases operation with
  | signInWithEmail | createUserWithEmail | loadReminders | addReminder | uploadProfileImage =>
      cases total
  | checkUserAuthentication => exact between_once _
  | changeUserPassword | signOut | deleteReminder => exact .call fun _ => between_once _
  | getCurrentUser | getCurrentUserPhotoURL =>
      simp only [Operation.program, Service.getCurrentUser, Service.getCurrentUserPhotoURL]
      split
      · exact between_once _
      · exact between_once _
  -- the call if there is something to make it with, else the error at once
  | reauthenticateUser | updateReminder | updateDisplayName | updateUserProfilePhotoURL =>
      simp only [Operation.program, Service.reauthenticateUser, Service.updateReminder,
        Service.updateDisplayName, Service.updateUserProfilePhotoURL]
      split
      · exact .call fun _ => between_once _
      · exact between_once _

/-- A callback that completes with a value or an error, or with neither does nothing. -/
theorem between_reply {C : Type} {R : C → Type} {α : Type} {value : Option User}
    {error : Option NSError} {found : User → Callback C R α} {failed : NSError → α}
    (found_ : ∀ user, Between 0 1 (found user)) :
    Between 0 1
      (match value, error with
        | some user, _ => found user
        | none, some error => .complete (failed error) .done
        | none, none => .done) := by
  cases value with
  | some user => exact found_ user
  | none =>
      cases error with
      | some error => exact .atMost (between_once _)
      | none => exact .done 1

/-- **No operation completes twice**, but for the one that listens. -/
theorem between_of_calls (calls : operation ≠ .loadReminders) :
    Between 0 1 (operation.program auth) := by
  by_cases total : operation.isTotal = true
  · exact .atMost (between_of_isTotal total)
  · cases operation with
    | loadReminders => exact absurd rfl calls
    | signInWithEmail email password =>
        exact .call fun _ => between_reply fun _ => .atMost (between_once _)
    | createUserWithEmail name email password =>
        refine .call fun _ => between_reply fun user => .call fun error => ?_
        cases error with
        | some error => exact .atMost (between_once _)
        | none => exact .atMost (between_once _)
    | addReminder reminder =>
        simp only [Operation.program, Service.addReminder]
        split
        · exact .call fun _ => .atMost (between_once _)
        · exact .done 1
    | uploadProfileImage image =>
        simp only [Operation.program, Service.uploadProfileImage]
        split
        · refine .call fun error => ?_
          split
          · exact .atMost (between_once _)
          · exact .call fun _ => .atMost (between_once _)
        · exact .done 1
    | _ => exact absurd rfl total

end Bounds

/-! ## In any order -/

/-- **No operation answers twice**, whatever else is under way and in whatever order the
callbacks come; and one with an answer in every branch has answered when the last of its
callbacks has come. -/
theorem answered_once {flight : Flight} (reached : Flight.machine.Reachable flight)
    {request : Request} {job : Job FirebaseCall Reply request.operation.Result}
    (member : ⟨request, job⟩ ∈ flight.jobs) (calls : request.operation ≠ .loadReminders) :
    job.completions.length ≤ 1 ∧
      (request.operation.isTotal = true → job.waits = [] → job.completions.length = 1) := by
  constructor
  · cases Pool.owes reached (between_of_calls calls) member with
    | nothing atLeast atMost => exact atMost
    | waiting answered atLeast atMost => exact Nat.le_of_add_right_le atMost
  · intro total ended
    cases Pool.owes reached (between_of_isTotal total) member with
    | nothing atLeast atMost => exact Nat.le_antisymm atMost atLeast
    | waiting => cases ended

/-- Ann is signed in. -/
def annSignedIn : Authentication := ⟨some ⟨⟨"ann", none⟩, 0⟩, none⟩

/-- She saves a reminder. -/
def saveMilk : Request :=
  ⟨.updateReminder { title := some "Milk", documentID := some "d1" }, annSignedIn⟩

/-- Her list is loading as she does, and a snapshot comes before the answer. -/
def saveWhileLoading : List Flight.Event :=
  [.begin ⟨.loadReminders, annSignedIn⟩, .begin saveMilk, .answer 0 ⟨0, silence.answer 0⟩,
    .answer 1 ⟨0, silence.answer 0⟩]

def savedWhileLoading : Flight := (Flight.machine.run Pool.empty saveWhileLoading).getD Pool.empty

theorem saveMilk_answered :
    ∃ job, savedWhileLoading.jobs[1]? = some ⟨saveMilk, job⟩ ∧ job.completions.length = 1 := by
  have ran : Flight.machine.run Pool.empty saveWhileLoading = some savedWhileLoading := rfl
  have at_ : savedWhileLoading.jobs[1]? = some ⟨saveMilk, ⟨[none], [], false⟩⟩ := rfl
  have once := answered_once (Machine.reachable_of_run rfl ran) (List.mem_of_getElem? at_)
    fun listens => nomatch listens
  exact ⟨_, at_, once.2 rfl rfl⟩

/-! ## The listener -/

/-- What the listener makes of a callback, unless it traps. -/
def heardAs (ownerId : String) (reply : Option Snapshot × Option NSError) :
    Option (Except NSError (List ReminderModel)) :=
  (FirebaseService.loadRemindersListener ownerId reply.2 reply.1).toOption

/-- What it goes on with. -/
def heardThen (ownerId : String) (reply : Option Snapshot × Option NSError) :
    Service (Except NSError (List ReminderModel)) :=
  match FirebaseService.loadRemindersListener ownerId reply.2 reply.1 with
  | .ok result => .complete result .done
  | .error _ => .trap

theorem loadReminders_listens {auth : Authentication} {user : User}
    (signedIn : auth.currentUser = some user) :
    Service.loadReminders auth =
      .listen (.addSnapshotListener user.uid) (heardThen user.uid) := by
  simp only [Service.loadReminders, FirebaseService.loadReminders, signedIn, Option.map_some]
  rfl

/-- **Every snapshot is passed on**, once and in order, whatever else is under way and as
long as the listener has not trapped. -/
theorem snapshots_delivered {es : List Flight.Event} {flight : Flight}
    (ran : Flight.machine.run Pool.empty es = some flight) {index : Nat} {auth : Authentication}
    {user : User} (signedIn : auth.currentUser = some user)
    {job : Job FirebaseCall Reply (Except NSError (List ReminderModel))}
    (at_ : flight.jobs[index]? = some ⟨⟨.loadReminders, auth⟩, job⟩)
    (runs : job.isTrapped = false) :
    job.completions.map some =
      (Pool.answersTo index es).map fun answer =>
        heardAs user.uid (answer.reply (.addSnapshotListener user.uid)) := by
  have alone : (Job.machine (Service.loadReminders auth)).run
      (Job.begin (Service.loadReminders auth)) (Pool.answersTo index es) = some job :=
    Pool.run_alone ran at_
  rw [loadReminders_listens signedIn] at alone
  have trapped : ∀ reply, heardAs user.uid reply = none → heardThen user.uid reply = .trap := by
    intro reply said
    unfold heardAs at said
    unfold heardThen
    cases heard : FirebaseService.loadRemindersListener user.uid reply.2 reply.1 with
    | ok result =>
        rw [heard] at said
        cases said
    | error trap => rfl
  have passed : ∀ reply result, heardAs user.uid reply = some result →
      heardThen user.uid reply = .complete result .done := by
    intro reply result said
    unfold heardAs at said
    unfold heardThen
    cases heard : FirebaseService.loadRemindersListener user.uid reply.2 reply.1 with
    | ok delivered =>
        rw [heard] at said
        cases said
        rfl
    | error trap =>
        rw [heard] at said
        cases said
  exact completions_listen trapped passed alone runs

theorem list_delivered :
    ∃ job : Job FirebaseCall Reply (Except NSError (List ReminderModel)),
      savedWhileLoading.jobs[0]? = some ⟨⟨.loadReminders, annSignedIn⟩, job⟩ ∧
        job.completions.map some =
          (Pool.answersTo 0 saveWhileLoading).map fun answer =>
            heardAs "ann" (answer.reply (.addSnapshotListener "ann")) := by
  have ran : Flight.machine.run Pool.empty saveWhileLoading = some savedWhileLoading := rfl
  have signedIn : annSignedIn.currentUser = some ⟨"ann", none⟩ := rfl
  have at_ : savedWhileLoading.jobs[0]? = some ⟨⟨.loadReminders, annSignedIn⟩,
      ⟨[.ok []], [.listen (.addSnapshotListener "ann") (heardThen "ann")], false⟩⟩ := rfl
  exact ⟨_, at_, snapshots_delivered ran signedIn at_ rfl⟩

end Remindify.Network
