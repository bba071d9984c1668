/-
# Profile.Upload -- the navigation bar while a profile image is uploaded

`ProfileViewController.imagePickerController(_:didFinishPickingMediaWithInfo:)` and the
two service functions behind it.  Picking an image switches the bar of the navigation
controller off; the completion of the upload switches it on again, through
`self.navigationController?`, unless the controller is gone (`weak self`).  The service
calls no completion for an image without JPEG data.

* `throughout_usable_iff`: the bar comes back and no download URL is dropped, throughout
  a run, exactly when every event meets `KeepsUsable`;
* `usable_of_staying`: one way to meet it, staying on the screen while it uploads;
* `unencodable_disables`: one image that cannot be encoded is enough.

The bar is that of one navigation controller; any number of Profile screens come and go
on it.
-/
import Remindify.Theory.Machine
import Remindify.Network.FirebaseService

namespace Remindify.Network.FirebaseService

set_option autoImplicit false

abbrev Data := List UInt8

abbrev URL := String

/-- A picked image: what `jpegData(compressionQuality: 0.8)` gives for it. -/
structure UIImage where
  jpegData : Option Data
  deriving DecidableEq, Repr

/-- `uploadProfileImage`: the data handed to `putData`, if the image has any. -/
def uploadProfileImage (image : UIImage) : Option Data := image.jpegData

/-- The completion of `putData`: what the upload completes with, unless the download
URL is asked for. -/
def putDataCompleted : Option NSError → Option (Except NSError URL)
  | some error => some (.error error)
  | none => none

def noDownloadURL : NSError :=
  { domain := "FirebaseService", code := 0
    localizedDescription := "The operation couldn’t be completed. (FirebaseService error 0.)" }

/-- The completion of `downloadURL`. -/
def downloadURLCompleted (url : Option URL) (error : Option NSError) : Except NSError URL :=
  match url with
  | some downloadURL => .ok downloadURL
  | none => .error (error.getD noDownloadURL)

def userNotLoggedIn : NSError :=
  { domain := "FirebaseService", code := 0, localizedDescription := "User is not logged in" }

/-- `updateUserProfilePhotoURL`: the change it commits. -/
def updateUserProfilePhotoURL (currentUser : Option User) (url : URL) :
    Except NSError (User × URL) :=
  match currentUser with
  | some user => .ok (user, url)
  | none => .error userNotLoggedIn

end Remindify.Network.FirebaseService

namespace Remindify.Profile

open Remindify.Theory
open Remindify.Network
open Remindify.Network.FirebaseService

set_option autoImplicit false

/-- Where a Profile controller is.  A popped one has no `navigationController`. -/
inductive Presence where
  | onStack
  | popped
  | deallocated
  deriving DecidableEq, Repr

inductive Stage where
  | puttingData
  | fetchingURL
  deriving DecidableEq, Repr

/-- An upload in flight, and the controller its completion captures weakly. -/
structure Upload where
  owner : Nat
  data : Data
  stage : Stage
  deriving DecidableEq, Repr

structure App where
  /-- `navigationBar.isUserInteractionEnabled` -/
  isUserInteractionEnabled : Bool
  controllers : List Presence
  uploads : List Upload
  /-- the controllers captured by a `commitChanges` under way -/
  commits : List Nat
  /-- the download URLs obtained so far, and who was signed in then -/
  obtained : List (Option User × URL)
  /-- the changes of `photoURL` asked for so far -/
  requests : List (User × URL)
  currentUser : Option User
  deriving DecidableEq, Repr

namespace App

def presence (app : App) (controller : Nat) : Presence :=
  (app.controllers[controller]?).getD .deallocated

/-- `self.navigationController?.navigationBar.isUserInteractionEnabled = enabled`. -/
def setUserInteraction (app : App) (controller : Nat) (enabled : Bool) : App :=
  { app with
    isUserInteractionEnabled :=
      if app.presence controller = .onStack then enabled else app.isUserInteractionEnabled }

/-- `imagePickerController(_:didFinishPickingMediaWithInfo:)`. -/
def didFinishPicking (app : App) (controller : Nat) (editedImage : Option UIImage) : App :=
  match editedImage with
  | some pickedImage =>
      let app := app.setUserInteraction controller false
      match uploadProfileImage pickedImage with
      | some data => { app with uploads := app.uploads ++ [⟨controller, data, .puttingData⟩] }
      | none => app
  | none => app

/-- The completion handed to `uploadProfileImage`. -/
def uploadCompleted (app : App) (owner : Nat) (result : Except NSError URL) : App :=
  if app.presence owner = .deallocated then app
  else
    let app := app.setUserInteraction owner true
    match result with
    | .ok downloadURL =>
        match updateUserProfilePhotoURL app.currentUser downloadURL with
        | .ok request =>
            { app with requests := app.requests ++ [request], commits := app.commits ++ [owner] }
        | .error _ => app
    | .error _ => app

end App

/-! ## The machine -/

inductive Event where
  | openProfile
  | pick (controller : Nat) (editedImage : Option UIImage)
  | leave (controller : Nat)
  | deallocate (controller : Nat)
  | putDataAnswered (upload : Nat) (error : Option NSError)
  | downloadURLAnswered (upload : Nat) (url : Option URL) (error : Option NSError)
  | commitAnswered (commit : Nat)
  /-- somebody else is signed in now, or nobody -/
  | authChanged (currentUser : Option User)

def step (app : App) : Event → Option App
  | .openProfile => some { app with controllers := app.controllers ++ [.onStack] }
  | .pick controller editedImage =>
      if app.presence controller = .deallocated then none
      else some (app.didFinishPicking controller editedImage)
  | .leave controller =>
      if app.presence controller = .onStack then
        some { app with controllers := app.controllers.set controller .popped }
      else none
  | .deallocate controller =>
      if app.presence controller = .popped ∧ controller ∉ app.commits then
        some { app with controllers := app.controllers.set controller .deallocated }
      else none
  | .putDataAnswered upload error =>
      match app.uploads[upload]? with
      | some ⟨owner, data, .puttingData⟩ =>
          match putDataCompleted error with
          | some result =>
              some
                ({ app with uploads := app.uploads.eraseIdx upload }.uploadCompleted owner result)
          | none =>
              some { app with uploads := app.uploads.set upload ⟨owner, data, .fetchingURL⟩ }
      | _ => none
  | .downloadURLAnswered upload url error =>
      match app.uploads[upload]? with
      | some ⟨owner, _, .fetchingURL⟩ =>
          let app := { app with
            uploads := app.uploads.eraseIdx upload
            obtained := app.obtained ++ url.toList.map fun url => (app.currentUser, url) }
          some (app.uploadCompleted owner (downloadURLCompleted url error))
      | _ => none
  | .commitAnswered commit =>
      if commit < app.commits.length then
        some { app with commits := app.commits.eraseIdx commit }
      else none
  | .authChanged currentUser => some { app with currentUser }

/-- The app before the first Profile screen. -/
def launched (currentUser : Option User) : App :=
  { isUserInteractionEnabled := true, controllers := [], uploads := [], commits := []
    obtained := [], requests := [], currentUser }

def machine : Machine App Event where
  init app := ∃ currentUser, app = launched currentUser
  step := step

/-- What a request says of its URL: whose `photoURL` it is to be. -/
def whose (request : User × URL) : Option User × URL := (some request.1, request.2)

/-- **The app stays usable and loses no upload**: with no upload in flight the bar takes
touches, and every download URL obtained has been asked for as the `photoURL` of the user
signed in when it was obtained, one request for each. -/
structure Usable (app : App) : Prop where
  enabled : app.uploads = [] → app.isUserInteractionEnabled = true
  requested : app.requests.map whose = app.obtained

/-- When the end of an upload leaves the bar on: another upload is in flight, or the bar
is on, or the controller is on the stack to switch it on. -/
def Releases (app : App) (upload : Nat) : Prop :=
  2 ≤ app.uploads.length ∨ app.isUserInteractionEnabled = true ∨
    ∃ ended, app.uploads[upload]? = some ended ∧ app.presence ended.owner = .onStack

/-- The condition on an event. -/
def KeepsUsable (app : App) : Event → Prop
  | .pick controller (some pickedImage) =>
      pickedImage.jpegData.isSome = true ∨ app.presence controller ≠ .onStack ∨ app.uploads ≠ []
  | .putDataAnswered upload (some _) => Releases app upload
  | .downloadURLAnswered upload none _ => Releases app upload
  | .downloadURLAnswered upload (some _) _ =>
      Releases app upload ∧ app.currentUser.isSome = true ∧
        ∀ ended, app.uploads[upload]? = some ended → app.presence ended.owner ≠ .deallocated
  | _ => True

/-! ## The completion -/

/-- What a completion does: a controller on the stack switches the bar on, and one that
is alive asks for the URL as the `photoURL` of whoever is signed in. -/
structure Completes (app : App) (owner : Nat) (result : Except NSError URL) (after : App) :
    Prop where
  uploads : after.uploads = app.uploads
  obtained : after.obtained = app.obtained
  controllers : after.controllers = app.controllers
  currentUser : after.currentUser = app.currentUser
  enabled : after.isUserInteractionEnabled = true ↔
    app.isUserInteractionEnabled = true ∨ app.presence owner = .onStack
  requests : after.requests.map whose = app.requests.map whose ++
    if app.presence owner ≠ .deallocated ∧ app.currentUser.isSome = true then
      result.toOption.toList.map fun url => (app.currentUser, url)
    else []

theorem uploadCompleted_spec (app : App) (owner : Nat) (result : Except NSError URL) :
    Completes app owner result (app.uploadCompleted owner result) := by
  unfold App.uploadCompleted
  split
  · rename_i gone
    exact { uploads := rfl, obtained := rfl, controllers := rfl, currentUser := rfl
            enabled := by simp [gone], requests := by simp [gone] }
  · rename_i alive
    have switched : (app.setUserInteraction owner true).isUserInteractionEnabled = true ↔
        app.isUserInteractionEnabled = true ∨ app.presence owner = .onStack := by
      unfold App.setUserInteraction
      dsimp only
      split
      · rename_i here
        simp [here]
      · rename_i away
        simp [away]
    cases result with
    | error error =>
        exact { uploads := rfl, obtained := rfl, controllers := rfl, currentUser := rfl
                enabled := switched
                requests := by simp [App.setUserInteraction, Except.toOption] }
    | ok downloadURL =>
        cases signedIn : app.currentUser with
        | none =>
            simp only [App.setUserInteraction, updateUserProfilePhotoURL, signedIn]
            exact { uploads := rfl, obtained := rfl, controllers := rfl
                    currentUser := signedIn.symm, enabled := switched
                    requests := by simp [signedIn] }
        | some user =>
            simp only [App.setUserInteraction, updateUserProfilePhotoURL, signedIn]
            exact { uploads := rfl, obtained := rfl, controllers := rfl
                    currentUser := signedIn.symm, enabled := switched
                    requests := by simp [signedIn, alive, whose, Except.toOption] }

/-! ## One step -/

section Step

variable {app app' : App}

theorem eraseIdx_eq_nil_iff {α : Type} {l : List α} {i : Nat} (inRange : i < l.length) :
    l.eraseIdx i = [] ↔ ¬ 2 ≤ l.length := by
  rw [← List.length_eq_zero_iff, List.length_eraseIdx_of_lt inRange]
  omega

/-- The end of an upload, whatever it completes with. -/
theorem usable_completed_iff (usable : Usable app) {upload : Nat} {ended : Upload}
    (inFlight : app.uploads[upload]? = some ended) (result : Except NSError URL) (url : Option URL)
    (answer : result.toOption = url) :
    Usable ({ app with
        uploads := app.uploads.eraseIdx upload
        obtained := app.obtained ++ url.toList.map fun url =>
          (app.currentUser, url) }.uploadCompleted ended.owner result) ↔
      Releases app upload ∧ (url.isSome = true →
        app.currentUser.isSome = true ∧ app.presence ended.owner ≠ .deallocated) := by
  have completes := uploadCompleted_spec
    { app with
      uploads := app.uploads.eraseIdx upload
      obtained := app.obtained ++ url.toList.map fun url => (app.currentUser, url) }
    ended.owner result
  have inRange := (List.getElem?_eq_some_iff.1 inFlight).1
  have last : app.uploads.eraseIdx upload = [] ↔ ¬ 2 ≤ app.uploads.length :=
    eraseIdx_eq_nil_iff inRange
  have owner : (∃ ended', app.uploads[upload]? = some ended' ∧
      app.presence ended'.owner = .onStack) ↔ app.presence ended.owner = .onStack := by
    simp [inFlight]
  constructor
  · rintro ⟨enabled, requested⟩
    rw [completes.uploads, completes.enabled, last] at enabled
    rw [completes.requests, completes.obtained, usable.requested, List.append_cancel_left_eq]
      at requested
    refine ⟨?_, fun isSome => ?_⟩
    · unfold Releases
      rw [owner]
      by_cases others : 2 ≤ app.uploads.length
      · exact Or.inl others
      · exact Or.inr (enabled others)
    · obtain ⟨downloadURL, rfl⟩ := Option.isSome_iff_exists.1 isSome
      split at requested
      · rename_i asked
        exact ⟨asked.2, asked.1⟩
      · cases requested
  · rintro ⟨released, asked⟩
    unfold Releases at released
    rw [owner] at released
    refine ⟨?_, ?_⟩
    · rw [completes.uploads, completes.enabled, last]
      exact fun none => released.resolve_left none
    · rw [completes.requests, completes.obtained, usable.requested, answer]
      cases url with
      | none => simp
      | some downloadURL =>
          obtain ⟨signedIn, alive⟩ := asked rfl
          rw [if_pos ⟨alive, signedIn⟩]

/-- Picking an image. -/
theorem usable_picked_iff (usable : Usable app) (controller : Nat)
    (editedImage : Option UIImage) :
    Usable (app.didFinishPicking controller editedImage) ↔
      KeepsUsable app (.pick controller editedImage) := by
  cases editedImage with
  | none => exact ⟨fun _ => trivial, fun _ => usable⟩
  | some pickedImage =>
      obtain ⟨jpegData⟩ := pickedImage
      cases jpegData with
      | some data =>
          refine ⟨fun _ => Or.inl rfl, fun _ => ⟨?_, usable.requested⟩⟩
          intro none
          exact absurd (List.append_eq_nil_iff.1 none).2 (List.cons_ne_nil _ _)
      | none =>
          constructor
          · intro picked
            by_cases here : app.presence controller = .onStack
            · refine Or.inr (Or.inr fun none => ?_)
              have enabled := picked.enabled none
              simp [App.didFinishPicking, uploadProfileImage, App.setUserInteraction, here]
                at enabled
            · exact Or.inr (Or.inl here)
          · intro kept
            refine ⟨fun none => ?_, usable.requested⟩
            have enabled := usable.enabled none
            rcases kept with encoded | away | others
            · cases encoded
            · simp [App.didFinishPicking, uploadProfileImage, App.setUserInteraction, away,
                enabled]
            · exact absurd none others

/-- The effects an event has, every one of them. -/
inductive Effect (app : App) : Event → App → Prop where
  | opened : Effect app .openProfile { app with controllers := app.controllers ++ [.onStack] }
  | picked {controller : Nat} {editedImage : Option UIImage} :
      Effect app (.pick controller editedImage) (app.didFinishPicking controller editedImage)
  | left {controller : Nat} :
      Effect app (.leave controller)
        { app with controllers := app.controllers.set controller .popped }
  | deallocated {controller : Nat} (away : app.presence controller = .popped) :
      Effect app (.deallocate controller)
        { app with controllers := app.controllers.set controller .deallocated }
  | put {upload owner : Nat} {data : Data}
      (inFlight : app.uploads[upload]? = some ⟨owner, data, .puttingData⟩) :
      Effect app (.putDataAnswered upload none)
        { app with uploads := app.uploads.set upload ⟨owner, data, .fetchingURL⟩ }
  | putFailed {upload : Nat} {ended : Upload} (error : NSError)
      (inFlight : app.uploads[upload]? = some ended) :
      Effect app (.putDataAnswered upload (some error))
        ({ app with uploads := app.uploads.eraseIdx upload }.uploadCompleted ended.owner
          (.error error))
  | fetched {upload : Nat} {ended : Upload} (url : Option URL) (error : Option NSError)
      (inFlight : app.uploads[upload]? = some ended) :
      Effect app (.downloadURLAnswered upload url error)
        ({ app with
          uploads := app.uploads.eraseIdx upload
          obtained := app.obtained ++ url.toList.map fun url =>
            (app.currentUser, url) }.uploadCompleted ended.owner (downloadURLCompleted url error))
  | committed {commit : Nat} :
      Effect app (.commitAnswered commit) { app with commits := app.commits.eraseIdx commit }
  | changed (currentUser : Option User) :
      Effect app (.authChanged currentUser) { app with currentUser }

/-- **The effect of a step.** -/
theorem effect_of_step {event : Event} (moved : step app event = some app') :
    Effect app event app' := by
  cases event with
  | openProfile =>
      cases moved
      exact .opened
  | authChanged currentUser =>
      cases moved
      exact .changed currentUser
  | pick controller editedImage =>
      simp only [step] at moved
      split at moved
      · cases moved
      · cases moved
        exact .picked
  | leave controller =>
      simp only [step] at moved
      split at moved
      · cases moved
        exact .left
      · cases moved
  | deallocate controller =>
      simp only [step] at moved
      split at moved
      · rename_i away
        cases moved
        exact .deallocated away.1
      · cases moved
  | commitAnswered commit =>
      simp only [step] at moved
      split at moved
      · cases moved
        exact .committed
      · cases moved
  | putDataAnswered upload error =>
      simp only [step] at moved
      split at moved
      · rename_i owner data inFlight
        cases error with
        | none =>
            cases moved
            exact .put inFlight
        | some error =>
            cases moved
            exact .putFailed error inFlight
      · cases moved
  | downloadURLAnswered upload url error =>
      simp only [step] at moved
      split at moved
      · rename_i owner data inFlight
        cases moved
        exact .fetched url error inFlight
      · cases moved

/-- **One event** keeps the app usable exactly when it meets the condition. -/
theorem usable_step_iff {event : Event} (usable : Usable app)
    (moved : step app event = some app') : Usable app' ↔ KeepsUsable app event := by
  cases effect_of_step moved with
  | opened | left | deallocated | committed | changed =>
      exact ⟨fun _ => trivial, fun _ => ⟨usable.enabled, usable.requested⟩⟩
  | @picked controller editedImage => exact usable_picked_iff usable controller editedImage
  | put inFlight =>
      refine ⟨fun _ => trivial, fun _ => ⟨fun none => ?_, usable.requested⟩⟩
      have nonempty := List.length_pos_of_mem (List.mem_of_getElem? inFlight)
      rw [← List.length_set, List.length_pos_iff] at nonempty
      exact absurd none nonempty
  | putFailed error inFlight =>
      have completed := usable_completed_iff usable inFlight (.error error) none rfl
      simp only [Option.toList_none, List.map_nil, List.append_nil] at completed
      rw [completed]
      exact ⟨fun kept => kept.1, fun released => ⟨released, fun isSome => nomatch isSome⟩⟩
  | fetched url error inFlight =>
      have answer : (downloadURLCompleted url error).toOption = url := by
        cases url <;> rfl
      rw [usable_completed_iff usable inFlight _ url answer]
      cases url with
      | none => exact ⟨fun kept => kept.1, fun released => ⟨released, fun isSome => nomatch isSome⟩⟩
      | some downloadURL =>
          constructor
          · rintro ⟨released, asked⟩
            obtain ⟨signedIn, alive⟩ := asked rfl
            refine ⟨released, signedIn, fun ended at_ => ?_⟩
            cases inFlight.symm.trans at_
            exact alive
          · rintro ⟨released, signedIn, alive⟩
            exact ⟨released, fun _ => ⟨signedIn, alive _ inFlight⟩⟩

end Step

/-! ## Whole runs -/

theorem usable_launched (currentUser : Option User) : Usable (launched currentUser) where
  enabled _ := rfl
  requested := rfl

/-- **When uploading leaves the app usable and loses no upload.**  Throughout a run, the
bar takes touches whenever no upload is in flight and every download URL obtained is asked
for, if and only if every event of the run meets the condition. -/
theorem throughout_usable_iff (currentUser : Option User) (es : List Event) :
    machine.Throughout Usable (launched currentUser) es ↔
      machine.RunOk KeepsUsable (launched currentUser) es :=
  Machine.throughout_iff_runOk (M := machine) (I := fun _ => True) (P := Usable)
    (fun _ _ _ _ _ _ _ => trivial)
    (fun _ _ _ _ usable moved => usable_step_iff usable moved)
    trivial (usable_launched currentUser) es

/-- An image without JPEG data: no upload begins, and the bar stays off. -/
theorem unencodable_disables : ¬ ∀ app : App, machine.Reachable app → Usable app := by
  intro always
  have ran : machine.run (launched (some ⟨"ann", none⟩)) [.openProfile, .pick 0 (some ⟨none⟩)] =
      some _ := rfl
  have usable := always _ (Machine.reachable_of_run ⟨_, rfl⟩ ran)
  exact absurd (usable.enabled rfl) (by decide)

/-! ## Staying on the screen -/

/-- The events of somebody who stays while an image uploads, with images that encode,
and stays signed in. -/
def Stays (app : App) : Event → Prop
  | .pick controller (some pickedImage) =>
      pickedImage.jpegData.isSome = true ∧ app.presence controller = .onStack
  | .leave controller => ∀ upload ∈ app.uploads, upload.owner ≠ controller
  | .authChanged currentUser => currentUser.isSome = true
  | _ => True

/-- Every upload's screen is on the stack, and somebody is signed in. -/
structure Attended (app : App) : Prop where
  usable : Usable app
  owners : ∀ upload ∈ app.uploads, app.presence upload.owner = .onStack
  signedIn : app.currentUser.isSome = true

section Staying

variable {app app' : App} {event : Event}

theorem keepsUsable_of_stays (attended : Attended app) (stays : Stays app event)
    (moved : step app event = some app') : KeepsUsable app event := by
  have onStack : ∀ (upload : Nat) (ended : Upload), app.uploads[upload]? = some ended →
      app.presence ended.owner = .onStack :=
    fun _ ended at_ => attended.owners ended (List.mem_of_getElem? at_)
  have released : ∀ (upload : Nat) (ended : Upload), app.uploads[upload]? = some ended →
      Releases app upload :=
    fun upload ended at_ => Or.inr (Or.inr ⟨ended, at_, onStack upload ended at_⟩)
  cases effect_of_step moved with
  | opened | left | deallocated | committed | changed | put => trivial
  | @picked controller editedImage =>
      cases editedImage with
      | none => trivial
      | some pickedImage => exact Or.inl stays.1
  | putFailed error inFlight => exact released _ _ inFlight
  | fetched url error inFlight =>
      cases url with
      | none => exact released _ _ inFlight
      | some downloadURL =>
          refine ⟨released _ _ inFlight, attended.signedIn, fun ended at_ => ?_⟩
          rw [onStack _ ended at_]
          decide

theorem presence_of_controllers {controllers : List Presence} {owner : Nat}
    (same : controllers[owner]? = app.controllers[owner]?) :
    { app with controllers }.presence owner = app.presence owner :=
  congrArg (·.getD .deallocated) same

theorem lt_of_onStack {owner : Nat} (here : app.presence owner = .onStack) :
    owner < app.controllers.length := by
  by_contra outside
  rw [App.presence, List.getElem?_eq_none (Nat.not_lt.1 outside)] at here
  cases here

/-- A completion moves no screen, and ends one upload. -/
theorem owners_completed (attended : Attended app) (upload owner : Nat)
    (obtained : List (Option User × URL)) (result : Except NSError URL) :
    let after := { app with uploads := app.uploads.eraseIdx upload, obtained }.uploadCompleted
      owner result
    (∀ other ∈ after.uploads, after.presence other.owner = .onStack) ∧
      after.currentUser.isSome = true := by
  intro after
  have completes := uploadCompleted_spec
    { app with uploads := app.uploads.eraseIdx upload, obtained } owner result
  refine ⟨fun other member => ?_, ?_⟩
  · rw [completes.uploads] at member
    unfold App.presence
    rw [completes.controllers]
    exact attended.owners other (List.mem_of_mem_eraseIdx member)
  · rw [completes.currentUser]
    exact attended.signedIn

/-- Uploads of screens that stay. -/
theorem owners_step (attended : Attended app) (stays : Stays app event)
    (moved : step app event = some app') :
    (∀ upload ∈ app'.uploads, app'.presence upload.owner = .onStack) ∧
      app'.currentUser.isSome = true := by
  cases effect_of_step moved with
  | opened =>
      refine ⟨fun upload member => ?_, attended.signedIn⟩
      have here := attended.owners upload member
      rw [presence_of_controllers (List.getElem?_append_left (lt_of_onStack here))]
      exact here
  | changed currentUser => exact ⟨attended.owners, stays⟩
  | committed => exact ⟨attended.owners, attended.signedIn⟩
  | left =>
      refine ⟨fun upload member => ?_, attended.signedIn⟩
      rw [presence_of_controllers (List.getElem?_set_ne (stays upload member).symm)]
      exact attended.owners upload member
  | @deallocated controller away =>
      refine ⟨fun upload member => ?_, attended.signedIn⟩
      have here := attended.owners upload member
      have other : controller ≠ upload.owner := by
        rintro rfl
        rw [away] at here
        cases here
      rw [presence_of_controllers (List.getElem?_set_ne other)]
      exact here
  | @picked controller editedImage =>
      cases editedImage with
      | none => exact ⟨attended.owners, attended.signedIn⟩
      | some pickedImage =>
          obtain ⟨encoded, here⟩ := stays
          obtain ⟨data, jpegData⟩ := Option.isSome_iff_exists.1 encoded
          simp only [App.didFinishPicking, uploadProfileImage, jpegData]
          refine ⟨fun upload member => ?_, attended.signedIn⟩
          rcases List.mem_append.1 member with old | new
          · exact attended.owners upload old
          · rw [List.mem_singleton.1 new]
            exact here
  | put inFlight =>
      have here := attended.owners _ (List.mem_of_getElem? inFlight)
      refine ⟨fun other member => ?_, attended.signedIn⟩
      rcases List.mem_or_eq_of_mem_set member with old | rfl
      · exact attended.owners other old
      · exact here
  | putFailed | fetched => exact owners_completed attended _ _ _ _

theorem attended_step (attended : Attended app) (stays : Stays app event)
    (moved : step app event = some app') : Attended app' := by
  obtain ⟨owners, signedIn⟩ := owners_step attended stays moved
  have keeps := keepsUsable_of_stays attended stays moved
  exact ⟨(usable_step_iff attended.usable moved).2 keeps, owners, signedIn⟩

end Staying

/-- **Staying is enough.**  Whoever stays on the screen while an image uploads, with
images that encode, finds the bar on again and every URL asked for. -/
theorem usable_of_staying (user : User) (es : List Event)
    (stays : machine.RunOk Stays (launched (some user)) es) :
    machine.Throughout Usable (launched (some user)) es := by
  have start : Attended (launched (some user)) := by
    refine ⟨usable_launched _, fun upload member => ?_, rfl⟩
    cases member
  exact Machine.throughout_of_runOk
    (fun _ _ _ attended met moved => attended_step attended met moved)
    (fun _ attended => attended.usable) start stays

end Remindify.Profile
