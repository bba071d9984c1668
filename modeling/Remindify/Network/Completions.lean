/-
# Network.Completions -- does every operation of the service answer?

`FirebaseService.swift`, every operation that takes a completion, as the program it is:
the calls it makes of Firebase, and in which callbacks, with which results, it calls its
completion.  Firebase answers each call once, with a value, an error, both or neither; a
snapshot listener it answers at least once.

* `answered_iff`: which operations call their completion exactly once (`loadReminders` at
  least once), for every argument, authentication state and sequence of replies;
* `createUserWithEmail_completions`: against FirebaseAuth as `Signup.Atomic` has it, the
  program completes as the operation does there;
* `addReminder_unanswered`: one that does not answer.
-/
import Remindify.Theory.Callback
import Remindify.Network.Authentication
import Remindify.Network.Malformed
import Remindify.Profile.Upload
import Remindify.Signup.Atomic

namespace Remindify.Network

open Remindify.Theory
open Remindify.Network.FirebaseService (URL UIImage Data)

set_option autoImplicit false

/-! ## Firebase -/

/-- A change collected by `createProfileChangeRequest`. -/
inductive ProfileChange where
  | displayName (name : Option String)
  | photoURL (url : Option URL)
  deriving DecidableEq, Repr

/-- The calls of Firebase the service makes. -/
inductive FirebaseCall where
  | signIn (email password : String)
  | createUser (email password : String)
  | signOut
  | reauthenticate (user : User) (credential : Credential)
  | updatePassword (user : User) (newPassword : String)
  | commitChanges (user : User) (changes : List ProfileChange)
  | addDocument (data : Fields)
  | updateData (documentID : DocumentID) (data : Fields)
  | deleteDocument (documentID : DocumentID)
  | addSnapshotListener (ownerId : String)
  | putData (imageData : Data)
  | downloadURL

/-- What a call is answered with, as far as the service reads it; `signOut` returns, or
throws. -/
abbrev Reply : FirebaseCall → Type
  | .signIn .. | .createUser .. => Option User × Option NSError
  | .addSnapshotListener .. => Option Snapshot × Option NSError
  | .downloadURL => Option URL × Option NSError
  | .signOut | .reauthenticate .. | .updatePassword .. | .commitChanges .. | .addDocument ..
  | .updateData .. | .deleteDocument .. | .putData .. => Option NSError

/-- What the service finds when it is called. -/
structure Authentication where
  session : Option Session
  /-- `photoURL` of the current user -/
  photoURL : Option URL

def Authentication.currentUser (auth : Authentication) : Option User :=
  FirebaseService.currentUser auth.session

/-- An operation of the service, its completion taking an `α`. -/
abbrev Service (α : Type) := Callback FirebaseCall Reply α

/-! ## The operations -/

namespace Service

def changeUserPassword (user : User) (newPassword : String) : Service (Option NSError) :=
  .call (.updatePassword user newPassword) fun error => .complete error .done

def getCurrentUser (auth : Authentication) : Service (Option User) :=
  match auth.currentUser with
  | some user => .complete (some user) .done
  | none => .complete none .done

def signInWithEmail (email password : String) : Service (Except NSError (Option User)) :=
  .call (.signIn email password) fun (user, error) =>
    match user, error with
    | some user, _ => .complete (.ok (some user)) .done
    | none, some error => .complete (.error error) .done
    | none, none => .done

def createUserWithEmail (name email password : String) : Service (Except NSError (Option User)) :=
  .call (.createUser email password) fun (user, error) =>
    match user, error with
    | some user, _ =>
        .call (.commitChanges user [.displayName (some name), .photoURL none]) fun error =>
          match error with
          | some error => .complete (.error error) .done
          | none => .complete (.ok (some user)) .done
    | none, some error => .complete (.error error) .done
    | none, none => .done

def checkUserAuthentication (auth : Authentication) : Service Bool :=
  .complete (FirebaseService.checkUserAuthentication auth.session) .done

def signOut (auth : Authentication) : Service (Bool × Option NSError) :=
  .call .signOut fun thrown => .complete (FirebaseService.signOut auth.session thrown).2 .done

def reauthenticateUser (auth : Authentication) (credential : Credential) :
    Service (Option NSError) :=
  match FirebaseService.reauthenticateUser auth.session credential with
  | .ok (user, credential) =>
      .call (.reauthenticate user credential) fun error => .complete error .done
  | .error error => .complete (some error) .done

def loadReminders (auth : Authentication) : Service (Except NSError (List ReminderModel)) :=
  match FirebaseService.loadReminders auth.currentUser with
  | some ownerId =>
      .listen (.addSnapshotListener ownerId) fun (querySnapshot, error) =>
        match FirebaseService.loadRemindersListener ownerId error querySnapshot with
        | .ok result => .complete result .done
        | .error _ => .trap
  | none => .done

def addReminder (auth : Authentication) (reminder : ReminderModel) : Service (Option NSError) :=
  match FirebaseService.addReminder auth.currentUser reminder with
  | some data => .call (.addDocument data) fun error => .complete error .done
  | none => .done

def updateReminder (reminder : ReminderModel) : Service (Option NSError) :=
  match FirebaseService.updateReminder reminder with
  | .ok (documentID, data) => .call (.updateData documentID data) fun error => .complete error .done
  | .error error => .complete (some error) .done

def userNotAuthenticated : NSError :=
  { domain := "FirebaseService", code := 1, localizedDescription := "User not authenticated" }

def updateDisplayName (auth : Authentication) (displayName : String) : Service (Option NSError) :=
  match auth.currentUser with
  | some user =>
      .call (.commitChanges user [.displayName (some displayName)]) fun error =>
        .complete error .done
  | none => .complete (some userNotAuthenticated) .done

def uploadProfileImage (image : UIImage) : Service (Except NSError URL) :=
  match FirebaseService.uploadProfileImage image with
  | some imageData =>
      .call (.putData imageData) fun error =>
        match FirebaseService.putDataCompleted error with
        | some result => .complete result .done
        | none =>
            .call .downloadURL fun (url, error) =>
              .complete (FirebaseService.downloadURLCompleted url error) .done
  | none => .done

def updateUserProfilePhotoURL (auth : Authentication) (url : URL) : Service (Option NSError) :=
  match FirebaseService.updateUserProfilePhotoURL auth.currentUser url with
  | .ok (user, url) =>
      .call (.commitChanges user [.photoURL (some url)]) fun error => .complete error .done
  | .error error => .complete (some error) .done

def photoURLNotAvailable : NSError :=
  { domain := "FirebaseService", code := 0
    localizedDescription := "User is not logged in or photoURL is not available" }

def getCurrentUserPhotoURL (auth : Authentication) : Service (Except NSError URL) :=
  match auth.currentUser, auth.photoURL with
  | some _, some photoURL => .complete (.ok photoURL) .done
  | _, _ => .complete (.error photoURLNotAvailable) .done

def deleteReminder (documentID : DocumentID) : Service (Option NSError) :=
  .call (.deleteDocument (FirebaseService.deleteReminder documentID)) fun error =>
    .complete error .done

end Service

inductive Operation where
  | changeUserPassword (user : User) (newPassword : String)
  | getCurrentUser
  | signInWithEmail (email password : String)
  | createUserWithEmail (name email password : String)
  | checkUserAuthentication
  | signOut
  | reauthenticateUser (credential : Credential)
  | loadReminders
  | addReminder (reminder : ReminderModel)
  | updateReminder (reminder : ReminderModel)
  | updateDisplayName (displayName : String)
  | uploadProfileImage (image : UIImage)
  | updateUserProfilePhotoURL (url : URL)
  | getCurrentUserPhotoURL
  | deleteReminder (documentID : DocumentID)

namespace Operation

/-- What the completion takes. -/
abbrev Result : Operation → Type
  | .getCurrentUser => Option User
  | .signInWithEmail .. | .createUserWithEmail .. => Except NSError (Option User)
  | .checkUserAuthentication => Bool
  | .signOut => Bool × Option NSError
  | .loadReminders => Except NSError (List ReminderModel)
  | .uploadProfileImage _ | .getCurrentUserPhotoURL => Except NSError URL
  | .changeUserPassword .. | .reauthenticateUser _ | .addReminder _ | .updateReminder _
  | .updateDisplayName _ | .updateUserProfilePhotoURL _ | .deleteReminder _ => Option NSError

def program (auth : Authentication) : (operation : Operation) → Service operation.Result
  | .changeUserPassword user newPassword => Service.changeUserPassword user newPassword
  | .getCurrentUser => Service.getCurrentUser auth
  | .signInWithEmail email password => Service.signInWithEmail email password
  | .createUserWithEmail name email password => Service.createUserWithEmail name email password
  | .checkUserAuthentication => Service.checkUserAuthentication auth
  | .signOut => Service.signOut auth
  | .reauthenticateUser credential => Service.reauthenticateUser auth credential
  | .loadReminders => Service.loadReminders auth
  | .addReminder reminder => Service.addReminder auth reminder
  | .updateReminder reminder => Service.updateReminder reminder
  | .updateDisplayName displayName => Service.updateDisplayName auth displayName
  | .uploadProfileImage image => Service.uploadProfileImage image
  | .updateUserProfilePhotoURL url => Service.updateUserProfilePhotoURL auth url
  | .getCurrentUserPhotoURL => Service.getCurrentUserPhotoURL auth
  | .deleteReminder documentID => Service.deleteReminder documentID

/-- **What a caller relies on**: one answer, or at least one from the operation that
listens. -/
def Answered : (operation : Operation) → List operation.Result → Prop
  | .loadReminders, completions => 1 ≤ completions.length
  | _, completions => completions.length = 1

/-- A reply the listener of `loadReminders` does not trap on. -/
def Readable (reply : Option Snapshot × Option NSError) : Prop :=
  reply.2.isSome = true ∨ FirebaseService.Described ((reply.1.map (·.documents)).getD [])

/-- The operations with an answer in every branch. -/
def isTotal : Operation → Bool
  | .signInWithEmail .. | .createUserWithEmail .. | .loadReminders | .addReminder _
  | .uploadProfileImage _ => false
  | _ => true

/-- When an operation answers. -/
def AnswersWhen (auth : Authentication) (replies : Replies FirebaseCall Reply) :
    Operation → Prop
  | .signInWithEmail email password => replies.answer 0 (.signIn email password) ≠ (none, none)
  | .createUserWithEmail _ email password =>
      replies.answer 0 (.createUser email password) ≠ (none, none)
  | .loadReminders =>
      ∃ user, auth.currentUser = some user ∧
        Readable (replies.answer 0 (.addSnapshotListener user.uid))
  | .addReminder _ => auth.currentUser.isSome = true
  | .uploadProfileImage image => image.jpegData.isSome = true
  | _ => True

end Operation

/-! ## Which operations answer -/

section Answers

open Callback

variable {auth : Authentication} {replies : Replies FirebaseCall Reply}

/-- **The operations with an answer in every branch** answer once, whatever happens. -/
theorem completes_program {operation : Operation} (total : operation.isTotal = true) :
    Completes 1 (operation.program auth) := by
  cases operation with
  | signInWithEmail | createUserWithEmail | loadReminders | addReminder | uploadProfileImage =>
      cases total
  | checkUserAuthentication => exact completes_once _
  | changeUserPassword | signOut | deleteReminder => exact completes_call fun _ => completes_once _
  | getCurrentUser | getCurrentUserPhotoURL =>
      simp only [Operation.program, Service.getCurrentUser, Service.getCurrentUserPhotoURL]
      split
      · exact completes_once _
      · exact completes_once _
  -- the call if there is something to make it with, else the error at once
  | reauthenticateUser | updateReminder | updateDisplayName | updateUserProfilePhotoURL =>
      simp only [Operation.program, Service.reauthenticateUser, Service.updateReminder,
        Service.updateDisplayName, Service.updateUserProfilePhotoURL]
      split
      · exact completes_call fun _ => completes_once _
      · exact completes_once _

/-- `signInWithEmail` looks for a user, then for an error. -/
theorem signInWithEmail_answers_iff (email password : String) :
    ((Service.signInWithEmail email password).completions replies).length = 1 ↔
      replies.answer 0 (.signIn email password) ≠ (none, none) := by
  refine length_completions_iff (fun found => ?_) fun nothing => ?_
  · refine Completes.of_answer ?_
    generalize replies.answer 0 (.signIn email password) = reply at found ⊢
    rcases reply with ⟨_ | user, _ | error⟩
    · exact absurd rfl found
    · exact completes_once _
    · exact completes_once _
    · exact completes_once _
  · refine Completes.of_answer ?_
    rw [not_not.1 nothing]
    exact completes_done

/-- The second step of `createUserWithEmail` answers with or without an error. -/
theorem completes_commitChanges (name : String) (user : User) :
    Completes 1 (.call (.commitChanges user [.displayName (some name), .photoURL none]) fun error =>
      match error with
      | some error => .complete (.error error) .done
      | none => .complete (.ok (some user)) .done : Service (Except NSError (Option User))) := by
  refine completes_call fun error => ?_
  cases error with
  | some error => exact completes_once _
  | none => exact completes_once _

/-- So only the first may go without one. -/
theorem createUserWithEmail_answers_iff (name email password : String) :
    ((Service.createUserWithEmail name email password).completions replies).length = 1 ↔
      replies.answer 0 (.createUser email password) ≠ (none, none) := by
  refine length_completions_iff (fun found => ?_) fun nothing => ?_
  · refine Completes.of_answer ?_
    generalize replies.answer 0 (.createUser email password) = reply at found ⊢
    rcases reply with ⟨_ | user, _ | error⟩
    · exact absurd rfl found
    · exact completes_once _
    · exact completes_commitChanges name user
    · exact completes_commitChanges name user
  · refine Completes.of_answer ?_
    rw [not_not.1 nothing]
    exact completes_done

/-- Without a user `addReminder` does nothing. -/
theorem addReminder_answers_iff (reminder : ReminderModel) :
    ((Service.addReminder auth reminder).completions replies).length = 1 ↔
      auth.currentUser.isSome = true := by
  unfold Service.addReminder FirebaseService.addReminder
  cases auth.currentUser with
  | none => exact iff_of_false (completes_done.length_completions.trans_ne Nat.zero_ne_one) nofun
  | some user => exact iff_of_true (completes_call fun _ => completes_once _).length_completions rfl

/-- Without JPEG data `uploadProfileImage` does nothing; with them, it answers after one
call or after two. -/
theorem uploadProfileImage_answers_iff (image : UIImage) :
    ((Service.uploadProfileImage image).completions replies).length = 1 ↔
      image.jpegData.isSome = true := by
  unfold Service.uploadProfileImage FirebaseService.uploadProfileImage
  cases image.jpegData with
  | none => exact iff_of_false (completes_done.length_completions.trans_ne Nat.zero_ne_one) nofun
  | some imageData =>
      refine iff_of_true (Completes.length_completions (completes_call fun error => ?_)) rfl
      cases error with
      | some error => exact completes_once _
      | none => exact completes_call fun _ => completes_once _

/-- The listener traps exactly on what it cannot read. -/
theorem loadRemindersListener_error_iff (ownerId : String)
    (reply : Option Snapshot × Option NSError) :
    (∃ trap, FirebaseService.loadRemindersListener ownerId reply.2 reply.1 = .error trap) ↔
      ¬ Operation.Readable reply := by
  obtain ⟨querySnapshot, _ | error⟩ := reply
  · cases querySnapshot with
    | none => simp [FirebaseService.loadRemindersListener, Operation.Readable,
        FirebaseService.Described]
    | some snapshot =>
        by_cases described : FirebaseService.Described snapshot.documents
        · simp [FirebaseService.loadRemindersListener_of_described "" described,
            Operation.Readable, described]
        · simp [FirebaseService.loadRemindersListener_of_undescribed described,
            Operation.Readable, described]
  · simp [FirebaseService.loadRemindersListener, Operation.Readable]

/-- `loadReminders` answers when there is somebody to listen for, and the first snapshot
does not trap. -/
theorem loadReminders_answers_iff :
    1 ≤ ((Service.loadReminders auth).completions replies).length ↔
      ∃ user, auth.currentUser = some user ∧
        Operation.Readable (replies.answer 0 (.addSnapshotListener user.uid)) := by
  unfold Service.loadReminders FirebaseService.loadReminders
  cases auth.currentUser with
  | none =>
      rw [Option.map_none, completes_done.length_completions]
      simp
  | some user =>
      rw [Option.map_some, one_le_listen_iff]
      · have trapped := loadRemindersListener_error_iff user.uid
          (replies.answer 0 (.addSnapshotListener user.uid))
        simp only [Option.some.injEq, exists_eq_left', ← not_iff_not (b := Operation.Readable _),
          ← trapped]
        split <;> simp_all
      · rintro ⟨querySnapshot, error⟩
        dsimp only
        split
        · exact Or.inr (completes_once _)
        · exact Or.inl rfl

end Answers

/-- **When an operation of the service answers**: exactly once, and `loadReminders` at
least once. -/
theorem answered_iff (operation : Operation) (auth : Authentication)
    (replies : Replies FirebaseCall Reply) :
    operation.Answered ((operation.program auth).completions replies) ↔
      operation.AnswersWhen auth replies := by
  cases operation with
  | signInWithEmail email password => exact signInWithEmail_answers_iff email password
  | createUserWithEmail name email password =>
      exact createUserWithEmail_answers_iff name email password
  | loadReminders => exact loadReminders_answers_iff
  | addReminder reminder => exact addReminder_answers_iff reminder
  | uploadProfileImage image => exact uploadProfileImage_answers_iff image
  | changeUserPassword | getCurrentUser | checkUserAuthentication | signOut | reauthenticateUser
  | updateReminder | updateDisplayName | updateUserProfilePhotoURL | getCurrentUserPhotoURL
  | deleteReminder => exact iff_of_true (completes_program rfl).length_completions trivial

/-! ## Silence -/

/-- A Firebase that answers every call with neither value nor error, once. -/
def silence : Replies FirebaseCall Reply where
  answer _ c :=
    match c with
    | .signIn .. | .createUser .. => (none, none)
    | .addSnapshotListener .. => (none, none)
    | .downloadURL => (none, none)
    | .signOut | .reauthenticate .. | .updatePassword .. | .commitChanges .. | .addDocument ..
    | .updateData .. | .deleteDocument .. | .putData .. => none
  again _ := 0

/-- With nobody signed in, `addReminder` is not answered. -/
theorem addReminder_unanswered :
    ¬ ∀ (operation : Operation) (auth : Authentication) (replies : Replies FirebaseCall Reply),
      operation.Answered ((operation.program auth).completions replies) := by
  intro always
  have answered : ([] : List (Option NSError)).length = 1 :=
    always (.addReminder { title := some "Milk" }) { session := none, photoURL := none } silence
  cases answered

/-! ## Against FirebaseAuth -/

/-- FirebaseAuth with some accounts, as it decides on a new one and on its profile. -/
def authReplies (auth : Signup.Auth) (creation : Signup.Creation) (commit : Signup.Commit) :
    Replies FirebaseCall Reply where
  answer n c :=
    match c with
    | .createUser email password => (auth.createUser email password creation).2
    | .commitChanges .. => commit.answer
    | c => silence.answer n c
  again _ := 0

/-- **The program completes as the operation does** on the accounts. -/
theorem createUserWithEmail_completes (auth : Signup.Auth) (name email password : String)
    (creation : Signup.Creation) (commit : Signup.Commit) :
    (Service.createUserWithEmail name email password).completions
        (authReplies auth creation commit) =
      ((Signup.FirebaseService.createUserWithEmail auth name email password creation commit).2.map
        (Except.map some)).toList := by
  simp only [Service.createUserWithEmail, Callback.completions, Callback.perform, authReplies,
    Signup.FirebaseService.createUserWithEmail]
  obtain ⟨after, user, error⟩ := auth.createUser email password creation
  cases user with
  | none => cases error <;> rfl
  | some user =>
      -- the second call is answered by what becomes of the commit
      have answered := Signup.commitChanges_snd after user
        { displayName := some name, photoURL := none } commit
      dsimp only
      rw [← answered]
      obtain ⟨committed, failed⟩ := after.commitChanges user
        { displayName := some name, photoURL := none } commit
      cases failed <;> rfl

end Remindify.Network
