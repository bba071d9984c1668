/-
# Navigation.SessionSafety -- when a Home screen on top belongs to who is signed in

Who is signed in is only looked at when a screen is loaded, and a Home screen that comes
back to the top is not loaded again.

* `guarded_step`: every event keeps the Home screens of other sessions covered, under a
  condition on seven of the events (`Minds`);
* `settled_home_belongs`: then a Home screen on top shows reminders of the user signed
  in, in every settled state;
* `loginButton_uncovers_home`: the Login button of the Signup screen breaks it.
-/
import Remindify.Navigation.Covering

namespace Remindify.Navigation

open Remindify.Theory
open Remindify.Network

set_option autoImplicit false

/-- A Home screen on top shows reminders of the user signed in. -/
def App.SessionSafe (app : App) : Prop :=
  ∀ screen, app.topViewController.screen = .home screen →
    ∃ user, app.currentUser = some user ∧
      ∀ reminder,
        reminder ∈ screen.filteredRemindersArr ∨ reminder ∈ screen.originalRemindersArr →
          reminder.ownerId = some user.uid

/-- The condition on an event: it uncovers no Home screen of another session, and ends
no session under a Home screen. -/
def Minds (app : App) : Event → Prop
  | .tap .toLogin =>
      Belongs app.session app.root ∨
        ∃ timer ∈ app.timers, Carries ⟨rootID, .home app.root⟩ timer
  | .signInAnswered index (.ok user) =>
      ∀ owner email password, app.calls[index]? = some (.signIn owner email password) →
        app.isOnStack owner ∨ app.ReadyFor user
  | .createUserAnswered _ (.ok user) => app.ReadyFor user
  | .updateAnswered index none =>
      ∀ owner documentID data, app.calls[index]? = some (.updateReminder owner documentID data) →
        app.isOnStack owner →
          (∃ screen, app.topViewController = ⟨owner, .edit screen⟩) ∨
            app.popViewController.Covered
  | .commitAnswered index (some error) =>
      ∀ owner displayName, app.calls[index]? = some (.commitChanges owner app.session displayName) →
        error.code ∈ FIRUser.invalidTokenCodes → app.Away
  | .passwordAnswered index none none =>
      ∀ owner session user newPassword,
        app.calls[index]? = some (.password owner session (.updating user newPassword)) →
        PasswordViewController.isAlive app owner →
          (app.topViewController = ⟨owner, .password⟩ ∧ ¬ app.isPresenting) ∨ app.Away
  | .passwordAnswered index (some error) _ =>
      ∀ owner user newPassword,
        app.calls[index]? = some (.password owner app.session (.updating user newPassword)) →
        error.code ∈ FIRUser.invalidTokenCodes → app.Away
  | .requestFailed error => error.code ∈ FIRUser.invalidTokenCodes → app.Away
  | _ => True

section Step

variable {ops : Home.TextOps} {app app' : App}

/-! ## Taps -/

/-- A screen with a back button is popped, with no alert up. -/
theorem Guarded.back (guarded : Guarded ops app) (free : app.isPresenting = false)
    (backs : app.topViewController.screen.hidesBackButton = false) :
    Guarded ops app.popViewController := by
  apply guarded.pop backs
  rintro timer waiting ⟨-, carries⟩
  cases block : timer.block with
  | dismissAlert =>
      rw [block] at carries
      exact carries
  | navigateToLogin =>
      rw [block] at carries
      obtain ⟨screen, home⟩ := carries
      rw [home] at backs
      cases backs
  | dismissThenNavigate =>
      rw [block] at carries
      have presenting : app.isPresenting = true := List.any_eq_true.2 ⟨timer, waiting, carries.1⟩
      rw [free] at presenting
      cases presenting

theorem guarded_saveEdited (guarded : Guarded ops app) {screen : Edit.Screen}
    (editing : app.topViewController.screen = .edit screen) (owner : ControllerID)
    (contents : Edit.Screen) :
    Guarded ops (EditReminderViewController.saveButtonTapped app owner contents) := by
  unfold EditReminderViewController.saveButtonTapped
  split
  · rename_i saved reminder _
    have shown : Guarded ops (app.setTop (.edit saved)) := guarded.setTop editing saved
    apply Guarded.after
    split
    · exact shown.congr rfl rfl rfl
    · exact shown.warnEditor _ _
  · exact guarded.setTop editing _

theorem guarded_signupButtonTapped (guarded : Guarded ops app) (owner : ControllerID)
    (fields : SignupViewController.TextFields) :
    Guarded ops (SignupViewController.signupButtonTapped app owner fields) := by
  unfold SignupViewController.signupButtonTapped
  split
  · exact guarded.warn _ _
  · split
    · split
      · exact guarded.congr rfl rfl rfl
      · exact guarded.warn _ _
    · exact guarded

/-- **Taps keep the invariant.** -/
theorem guarded_tapped {tap : Tap} (guarded : Guarded ops app) (free : app.isPresenting = false)
    (met : Minds app (.tap tap)) (moved : app.tapped tap = some app') : Guarded ops app' := by
  unfold App.tapped at moved
  simp only at moved
  split at moved
  case h_1 =>
    cases moved
    exact guarded.pushGuarded nofun
  case h_2 =>
    cases moved
    exact guarded.pushGuarded nofun
  case h_3 =>
    cases moved
    unfold HomeReminderTableViewController.didSelectRow
    split
    · exact guarded.pushGuarded nofun
    · exact guarded
  case h_4 screen thrown home =>
    cases moved
    have carries : Carries app.topViewController
        ⟨app.topViewController.id, .navigateToLogin, true⟩ := ⟨rfl, screen, home⟩
    exact guarded.logOut (Or.inl ⟨carries, free⟩) thrown
  case h_5 adding =>
    cases moved
    unfold AddReminderViewController.saveButtonTapped
    split
    · apply guarded.back free
      rw [adding]
      rfl
    · exact guarded
  case h_6 editing =>
    cases moved
    exact guarded_saveEdited guarded editing _ _
  case h_7 =>
    cases moved
    exact guarded.pushPassword
  case h_8 =>
    cases moved
    unfold PasswordViewController.saveChangesButtonPressed
    split
    · exact guarded
    · exact guarded.congr rfl rfl rfl
  case h_9 =>
    cases moved
    unfold LoginViewController.loginButtonTapped
    split
    · exact guarded.congr rfl rfl rfl
    · exact guarded.warn _ _
  case h_10 =>
    cases moved
    exact guarded.push nofun
  case h_11 =>
    cases moved
    exact guarded_signupButtonTapped guarded _ _
  case h_12 =>
    cases moved
    exact guarded.popToRoot met
  case h_13 =>
    split at moved
    · cases moved
    · rename_i backs
      cases moved
      exact guarded.back free (by simpa using backs)
  case h_14 => cases moved

/-! ## Answers -/

/-- The completion of a sign-in pushes a Home screen, if its Login screen is there. -/
theorem guarded_signedIn (guarded : Guarded ops app) {owner : ControllerID}
    {result : Except NSError User}
    (met : ∀ user, result = .ok user → app.isOnStack owner ∨ app.ReadyFor user) :
    Guarded ops (LoginViewController.signedIn app owner result) := by
  cases result with
  | error error => exact guarded.warn _ _
  | ok user =>
      simp only [LoginViewController.signedIn]
      split
      · exact .pushHome guarded.reachable
      · rename_i gone
        apply guarded.signIn
        exact (met user rfl).resolve_left gone

/-- A new account signs its user in before any Home screen is pushed. -/
theorem guarded_userCreated (guarded : Guarded ops app) {owner : ControllerID} {name : String}
    {result : Except NSError User} (met : ∀ user, result = .ok user → app.ReadyFor user) :
    Guarded ops (SignupViewController.userCreated app owner name result) := by
  cases result with
  | error error => exact guarded.warn _ _
  | ok user =>
      have signedIn : Guarded ops (app.signIn user) := guarded.signIn (met user rfl)
      exact signedIn.congr rfl rfl rfl

/-- The name is saved, or the failure ends the session of the new user. -/
theorem guarded_signedUp (guarded : Guarded ops app) (owner : ControllerID)
    {session : Option Session} {error : Option NSError}
    (met : ∀ failure, error = some failure → failure.code ∈ FIRUser.invalidTokenCodes →
      app.session = session → app.Away) :
    Guarded ops (SignupViewController.signedUp app owner session error) := by
  cases error with
  | some error =>
      have ended : Guarded ops (app.signOutIfTokenIsInvalid session error) :=
        guarded.signOutIfTokenIsInvalid (met error rfl)
      exact ended.warn _ _
  | none =>
      simp only [SignupViewController.signedUp]
      split
      · exact .pushHome guarded.reachable
      · exact guarded

/-- The completion of an update pops: its own Edit screen, or what the condition
allows. -/
theorem guarded_reminderUpdated (guarded : Guarded ops app) {owner : ControllerID}
    (error : Option NSError)
    (met : error = none → app.isOnStack owner →
      (∃ screen, app.topViewController = ⟨owner, .edit screen⟩) ∨ app.popViewController.Covered) :
    Guarded ops (EditReminderViewController.reminderUpdated app owner error) := by
  cases error with
  | some error => exact guarded.warnEditor _ _
  | none =>
      simp only [EditReminderViewController.reminderUpdated]
      split
      · rename_i onStack
        rcases met rfl onStack with ⟨screen, top⟩ | covered
        · apply guarded.pop
          · rw [top]
            rfl
          · rintro timer - ⟨-, carries⟩
            rw [top] at carries
            cases block : timer.block with
            | dismissAlert | navigateToLogin | dismissThenNavigate => simp [block] at carries
        · refine ⟨fun controller onStack => guarded.reachable controller ?_, covered⟩
          rcases List.mem_append.1 onStack with pushed | root
          · exact List.mem_append_left _ (List.mem_of_mem_tail pushed)
          · exact List.mem_append_right _ root
      · exact guarded

/-- The completion of a password update signs out, and a refused token does so before it. -/
theorem guarded_passwordUpdateAnswered (guarded : Guarded ops app) {owner : ControllerID}
    {session : Option Session} (error thrown : Option NSError)
    (met : error = none → thrown = none → PasswordViewController.isAlive app owner →
      (app.topViewController = ⟨owner, .password⟩ ∧ ¬ app.isPresenting) ∨ app.Away)
    (failed : ∀ failure, error = some failure → failure.code ∈ FIRUser.invalidTokenCodes →
      app.session = session → app.Away) :
    Guarded ops (PasswordViewController.passwordUpdateAnswered app owner session thrown error) := by
  cases error with
  | some error => exact guarded.signOutIfTokenIsInvalid (failed error rfl)
  | none =>
      simp only [PasswordViewController.passwordUpdateAnswered]
      split
      · rename_i alive
        cases thrown with
        | some error => exact guarded.congr rfl rfl rfl
        | none =>
            apply guarded.logOut
            apply (met rfl rfl alive).imp_left
            rintro ⟨top, free⟩
            rw [top]
            exact ⟨⟨rfl, rfl, rfl⟩, by simpa using free⟩
      · exact guarded

end Step

/-! ## Whole runs -/

/-- A cold start. -/
theorem guarded_launch (ops : Home.TextOps) (session : Option Session) :
    Guarded ops (launch session) := by
  constructor
  · intro controller onStack screen home
    cases List.mem_singleton.1 onStack
    cases home
    exact .init ⟨_, rfl⟩
  · intro screen found
    cases found
    by_cases signedIn : FirebaseService.checkUserAuthentication session = true
    · obtain ⟨user, current⟩ := Option.isSome_iff_exists.1 signedIn
      exact Or.inl (belongs_viewDidLoad current)
    · refine Or.inr ⟨⟨rootID, .navigateToLogin, false⟩, ?_, _, List.mem_singleton_self _, rfl, _,
        rfl⟩
      simp [launch, signedIn]

/-- **Every event that meets the condition keeps the invariant.** -/
theorem guarded_step (ops : Home.TextOps) {app app' : App} {event : Event}
    (guarded : Guarded ops app) (met : Minds app event) (moved : step ops app event = some app') :
    Guarded ops app' := by
  have removed (index : Nat) : Guarded ops (app.removeCall index) := guarded.congr rfl rfl rfl
  cases event with
  | coldStart =>
      cases moved
      exact guarded_launch ops app.session
  | tap tap =>
      simp only [step] at moved
      split at moved
      · cases moved
      · rename_i free
        exact guarded_tapped guarded (by simpa using free) met moved
  | home position event =>
      simp only [step] at moved
      split at moved
      · rename_i hears
        split at moved
        · rename_i screen at_
          obtain ⟨screen', stepped, rfl⟩ := Option.map_eq_some_iff.1 moved
          refine guarded.setHome at_ (fun reachable => reachable.step trivial stepped)
            fun reachable belongs => belongs_step ?_ reachable stepped belongs
          rintro call error user rfl
          exact eq_of_beq hears
        · cases moved
      · cases moved
  | signInAnswered index result =>
      simp only [step] at moved
      split at moved
      · rename_i owner email password asked
        cases moved
        apply guarded_signedIn (removed index)
        rintro user rfl
        exact met owner email password asked
      · cases moved
  | createUserAnswered index result =>
      simp only [step] at moved
      split at moved
      · cases moved
        apply guarded_userCreated (removed index)
        rintro user rfl
        exact met
      · cases moved
  | commitAnswered index error =>
      simp only [step] at moved
      split at moved
      · rename_i owner session displayName asked
        cases moved
        apply guarded_signedUp (removed index)
        rintro failure rfl refused rfl
        exact met owner displayName asked refused
      · cases moved
  | updateAnswered index error =>
      simp only [step] at moved
      split at moved
      · rename_i owner documentID data asked
        cases moved
        apply guarded_reminderUpdated (removed index)
        rintro rfl
        exact met owner documentID data asked
      · cases moved
  | passwordAnswered index error thrown =>
      simp only [step] at moved
      split at moved
      · cases moved
        cases error with
        | some error => exact removed index
        | none =>
            simp only [PasswordViewController.reauthenticationAnswered]
            split
            · exact (removed index).congr rfl rfl rfl
            · exact removed index
      · rename_i owner session user newPassword asked
        cases moved
        apply guarded_passwordUpdateAnswered (removed index)
        · rintro rfl rfl
          exact met owner session user newPassword asked
        · rintro failure rfl refused rfl
          exact met owner user newPassword asked refused
      · cases moved
  | requestFailed error =>
      cases moved
      exact guarded.signOutIfTokenIsInvalid fun refused _ => met refused
  | elapse index completes =>
      simp only [step] at moved
      split at moved
      · rename_i timer at_
        cases moved
        exact guarded_elapsed guarded at_ completes
      · cases moved

theorem guarded_reach {ops : Home.TextOps} {app : App} (reached : (machine ops).Reach Minds app) :
    Guarded ops app :=
  reached.invariant (I := Guarded ops)
    (by
      rintro _ ⟨session, rfl⟩
      exact guarded_launch ops session)
    (fun _ _ _ _ guarded met moved => guarded_step ops guarded met moved)

/-- Ann sees her reminder and logs out; Bob logs in on the Login screen that is pushed,
and his reminder is delivered. -/
def annThenBob : List Event :=
  [.home 0 (.snapshot 0 none (some
      ⟨[⟨"d1", FirebaseService.reminderData "ann" { title := some "Milk" }⟩], by decide⟩)),
    .tap (.logoutButton none), .elapse 0 true,
    .tap (.login (some "bob@example.com") (some "1234567")),
    .signInAnswered 0 (.ok ⟨"bob", some "bob@example.com"⟩),
    .home 0 (.snapshot 0 none (some
      ⟨[⟨"d2", FirebaseService.reminderData "bob" { title := some "Call" }⟩], by decide⟩))]

/-- Text functions for the run, which searches nothing. -/
def plainText : Home.TextOps := ⟨id, fun title text => title == text⟩

def annAtHome : App := launch (some ⟨⟨"ann", some "ann@example.com"⟩, 0⟩)

def bobAtHome : App := ((machine plainText).run annAtHome annThenBob).getD annAtHome

/-- A cold start with nobody signed in: the delayed push shows the Login screen, Signup
leads to the Signup screen, and Login there back to the Home screen. -/
def signupAndBack : List Event := [.elapse 0 true, .tap .toSignup, .tap .toLogin]

end Remindify.Navigation
