/-
# Navigation.App -- the navigation stack, and what the controllers do to it

The storyboard puts a Home screen at the bottom of one navigation controller; the
controllers push the other screens over it, pop them, and pop to that first Home
screen.  A user is signed in and out by answers that arrive at any time, and only
`viewDidLoad` of a controller looks at who is signed in.

* a tap goes to the top controller, unless an alert is presented;
* `navigationController?` is nil for a controller that left the stack, so its pushes
  and pops do nothing;
* a block handed to `asyncAfter` is a `Timer`; timers elapse, and calls are answered,
  in any order;
* a Home screen under others keeps its arrays and its listeners (`Home.Table`);
* a request whose token the server refuses ends the session it was made in, before its
  completion runs (`FIRUser.signOutIfTokenIsInvalidWithError`).

UIKit presents an alert for the top controller only, and no second one over it; an
alert asked for in `viewDidLoad`, where the view has no window yet, blocks no taps
here.  Whether the dismissal of an alert that was never presented completes is open:
the event says.
-/
import Remindify.Network.Authentication
import Remindify.Home.Table
import Remindify.Add.Screen
import Remindify.Edit.Screen
import Remindify.Password.Screen

namespace Remindify.Navigation

open Remindify.Theory
open Remindify.Network

set_option autoImplicit false

/-- The label of the Login and Signup screens. -/
structure WarningLabel where
  isHidden : Bool := true
  text : String := "Incorrect password"
  deriving DecidableEq, Repr

def WarningLabel.warn (text : String) : WarningLabel := { isHidden := false, text }

inductive Screen where
  | home (screen : Home.Screen)
  | login (warningLabel : WarningLabel)
  | signup (warningLabel : WarningLabel)
  | add
  | edit (screen : Edit.Screen)
  | profile
  | password
  deriving DecidableEq

/-- `navigationItem.hidesBackButton`. -/
def Screen.hidesBackButton : Screen → Bool
  | .home _ | .login _ | .signup _ => true
  | _ => false

abbrev ControllerID := Nat

structure ViewController where
  id : ControllerID
  screen : Screen
  deriving DecidableEq

/-- A call under way, with the controller its completion belongs to. -/
inductive Call where
  | signIn (owner : ControllerID) (email password : String)
  | createUser (owner : ControllerID) (name email password : String)
  /-- `commitChanges` of the profile of the user just created, in their session -/
  | commitChanges (owner : ControllerID) (session : Option Session) (displayName : String)
  | updateReminder (owner : ControllerID) (documentID : DocumentID) (data : Fields)
  /-- `session` is that of the user the chain is about -/
  | password (owner : ControllerID) (session : Option Session) (chain : Password.Chain)

/-- What a delayed block does to the stack, next to dismissing its alert. -/
inductive Block where
  | dismissAlert
  | navigateToLogin
  /-- the push is in the completion of the dismissal -/
  | dismissThenNavigate
  deriving DecidableEq, Repr

structure Timer where
  owner : ControllerID
  block : Block
  /-- whether UIKit presented the alert -/
  presented : Bool
  deriving DecidableEq, Repr

structure App where
  session : Option Session
  /-- how many sign-ins there have been -/
  signIns : Nat
  /-- the Home screen of the storyboard -/
  root : Home.Screen
  /-- the controllers over it, the top one first -/
  pushed : List ViewController
  nextID : ControllerID
  calls : List Call
  timers : List Timer

/-- The controller of the storyboard's Home screen. -/
def rootID : ControllerID := 0

namespace App

def currentUser (app : App) : Option User := FirebaseService.currentUser app.session

/-! ## UIKit -/

/-- The top controller first. -/
def viewControllers (app : App) : List ViewController :=
  app.pushed ++ [⟨rootID, .home app.root⟩]

def topViewController (app : App) : ViewController :=
  app.pushed.headD ⟨rootID, .home app.root⟩

/-- Whether `navigationController` is there. -/
def isOnStack (app : App) (id : ControllerID) : Bool :=
  app.viewControllers.any (·.id == id)

def pushViewController (app : App) (screen : Screen) : App :=
  { app with pushed := ⟨app.nextID, screen⟩ :: app.pushed, nextID := app.nextID + 1 }

/-- The bottom controller is never popped. -/
def popViewController (app : App) : App := { app with pushed := app.pushed.tail }

/-- Back to the storyboard's Home screen, which is loaded already. -/
def popToRootViewController (app : App) : App := { app with pushed := [] }

/-- An alert is presented; no tap gets past it. -/
def isPresenting (app : App) : Bool := app.timers.any (·.presented)

/-- `present`, and the block that dismisses the alert later. -/
def present (app : App) (owner : ControllerID) (block : Block) : App :=
  let presented := app.topViewController.id == owner && !app.isPresenting
  { app with timers := app.timers ++ [⟨owner, block, presented⟩] }

/-- The same in `viewDidLoad`, before the view is in a window. -/
def presentInViewDidLoad (app : App) (owner : ControllerID) (block : Block) : App :=
  { app with timers := app.timers ++ [⟨owner, block, false⟩] }

/-- The top controller shows something else. -/
def setTop (app : App) (screen : Screen) : App :=
  match app.pushed with
  | controller :: below => { app with pushed := { controller with screen } :: below }
  | [] => app

/-- The label of a Login or Signup controller. -/
def warn (app : App) (owner : ControllerID) (text : String) : App :=
  let warned (controller : ViewController) : ViewController :=
    if controller.id = owner then
      match controller.screen with
      | .login _ => { controller with screen := .login (.warn text) }
      | .signup _ => { controller with screen := .signup (.warn text) }
      | _ => controller
    else controller
  { app with pushed := app.pushed.map warned }

/-- A warning of an Edit controller. -/
def warnEditor (app : App) (owner : ControllerID) (text : String) : App :=
  let warned (controller : ViewController) : ViewController :=
    match controller with
    | ⟨id, .edit screen⟩ => if id = owner then ⟨id, .edit (screen.warn text)⟩ else controller
    | _ => controller
  { app with pushed := app.pushed.map warned }

/-- The Home screen at a position of the stack. -/
def home? (app : App) (position : Nat) : Option Home.Screen :=
  match app.viewControllers[position]? with
  | some ⟨_, .home screen⟩ => some screen
  | _ => none

def setHome (app : App) (position : Nat) (screen : Home.Screen) : App :=
  match app.pushed[position]? with
  | some ⟨id, _⟩ => { app with pushed := app.pushed.set position ⟨id, .home screen⟩ }
  | none => { app with root := screen }

/-! ## Showing a controller -/

def pushLogin (app : App) : App := app.pushViewController (.login {})

/-- `viewDidLoad` of Home: the session check, then the listener of the current user. -/
def pushHome (app : App) : App :=
  let id := app.nextID
  let app := app.pushViewController (.home (Home.viewDidLoad app.currentUser))
  if FirebaseService.checkUserAuthentication app.session then app
  else app.presentInViewDidLoad id .navigateToLogin

/-- `viewDidLoad` of Add, Edit and Profile: without a user, an alert and a Login
screen at once. -/
def pushGuarded (app : App) (screen : Screen) : App :=
  let id := app.nextID
  let app := app.pushViewController screen
  if FirebaseService.checkUserAuthentication app.session then app
  else (app.presentInViewDidLoad id .dismissAlert).pushLogin

def pushAdd (app : App) : App := app.pushGuarded .add

def pushEdit (app : App) (reminder : ReminderModel) : App :=
  app.pushGuarded (.edit (Edit.viewDidLoad (some reminder)))

def pushProfile (app : App) : App := app.pushGuarded .profile

/-- `viewDidLoad` of Password: without a user, an alert only. -/
def pushPassword (app : App) : App :=
  let id := app.nextID
  let app := app.pushViewController .password
  if FirebaseService.checkUserAuthentication app.session then app
  else app.presentInViewDidLoad id .dismissAlert

/-- FirebaseAuth signs a user in. -/
def signIn (app : App) (user : User) : App :=
  { app with session := some ⟨user, app.signIns⟩, signIns := app.signIns + 1 }

/-- `FirebaseService.signOut`, and what the caller does after a success. -/
def signOut (app : App) (thrown : Option NSError) (succeeded : App → App) : App :=
  match FirebaseService.signOut app.session thrown with
  | (session, true, _) => succeeded { app with session }
  | (session, false, _) => { app with session }

/-- A request of the user of `session` has failed. -/
def signOutIfTokenIsInvalid (app : App) (session : Option Session) (error : NSError) : App :=
  { app with session := FIRUser.signOutIfTokenIsInvalidWithError app.session session error }

end App

/-- A cold start: the storyboard loads the first Home screen. -/
def launch (session : Option Session) : App :=
  { session, signIns := (session.map fun s => s.serial + 1).getD 0
    root := Home.viewDidLoad (FirebaseService.currentUser session)
    pushed := [], nextID := rootID + 1, calls := []
    timers :=
      if FirebaseService.checkUserAuthentication session then []
      else [⟨rootID, .navigateToLogin, false⟩] }

/-! ## The controllers -/

namespace HomeReminderTableViewController

/-- The push waits for the delay, not for the dismissal. -/
def logoutButtonTapped (app : App) (thrown : Option NSError) : App :=
  app.signOut thrown fun app => app.present app.topViewController.id .navigateToLogin

def didSelectRow (app : App) (screen : Home.Screen) (row : Nat) : App :=
  match screen.filteredRemindersArr[row]? with
  | some selectedReminder => app.pushEdit selectedReminder
  | none => app

end HomeReminderTableViewController

namespace LoginViewController

def loginButtonTapped (app : App) (owner : ControllerID) (email password : Option String) : App :=
  match email, password with
  | some email, some password => { app with calls := app.calls ++ [.signIn owner email password] }
  | _, _ => app.warn owner "Email or password is incorrect"

/-- The completion of `signInWithEmail`. -/
def signedIn (app : App) (owner : ControllerID) : Except NSError User → App
  | .ok user =>
      let app := app.signIn user
      if app.isOnStack owner then app.pushHome else app
  | .error _ => app.warn owner "Wrong username or password. Try again."

def signupButtonTapped (app : App) : App := app.pushViewController (.signup {})

end LoginViewController

namespace SignupViewController

structure TextFields where
  name : Option String
  email : Option String
  password : Option String
  confirmPassword : Option String
  deriving DecidableEq, Repr

/-- The source's comment here is "navigate to login". -/
def loginButtonTapped (app : App) : App := app.popToRootViewController

def signupButtonTapped (app : App) (owner : ControllerID) (fields : TextFields) : App :=
  if fields.name = some "" then app.warn owner "Name is required"
  else
    match fields.name, fields.email, fields.password, fields.confirmPassword with
    | some name, some email, some password, some confirmPassword =>
        if password = confirmPassword then
          { app with calls := app.calls ++ [.createUser owner name email password] }
        else app.warn owner "Password and Confirm Password do not match"
    | _, _, _, _ => app

/-- What `createUserWithEmail` does with the answer of `createUser`: the user is
signed in, and the name is saved before the completion runs. -/
def userCreated (app : App) (owner : ControllerID) (name : String) : Except NSError User → App
  | .ok user =>
      let app := app.signIn user
      { app with calls := app.calls ++ [.commitChanges owner app.session name] }
  | .error error => app.warn owner error.localizedDescription

/-- The completion, with the answer of `commitChanges`. -/
def signedUp (app : App) (owner : ControllerID) (session : Option Session) :
    Option NSError → App
  | none => if app.isOnStack owner then app.pushHome else app
  | some error =>
      let app := app.signOutIfTokenIsInvalid session error
      app.warn owner error.localizedDescription

end SignupViewController

namespace AddReminderViewController

/-- Save pops without waiting for the answer. -/
def saveButtonTapped (app : App) (screen : Add.Screen) : App :=
  match (Add.saveButtonTapped screen).2 with
  | some _ => app.popViewController
  | none => app

end AddReminderViewController

namespace EditReminderViewController

/-- The completion of `updateReminder` pops whatever is on top. -/
def reminderUpdated (app : App) (owner : ControllerID) : Option NSError → App
  | none => if app.isOnStack owner then app.popViewController else app
  | some _ => app.warnEditor owner "Error updating document"

def saveButtonTapped (app : App) (owner : ControllerID) (screen : Edit.Screen) : App :=
  match Edit.saveButtonTapped screen with
  | (screen, some reminder) =>
      let app := app.setTop (.edit screen)
      let app : App :=
        match FirebaseService.updateReminder reminder with
        | .ok (documentID, data) =>
            { app with calls := app.calls ++ [.updateReminder owner documentID data] }
        | .error error => reminderUpdated app owner (some error)
      app.present owner .dismissAlert
  | (screen, none) => app.setTop (.edit screen)

end EditReminderViewController

namespace PasswordViewController

def saveChangesButtonPressed (app : App) (owner : ControllerID) (fields : Password.TextFields) :
    App :=
  match (Password.saveChanges (Password.viewDidLoad app.currentUser fields)).2 with
  | .ended => app
  | chain => { app with calls := app.calls ++ [.password owner app.session chain] }

/-- A popped controller lives on only in the blocks that wait. -/
def isAlive (app : App) (owner : ControllerID) : Bool :=
  app.isOnStack owner || app.timers.any (·.owner == owner)

/-- A failing reauthentication is a sign-in that failed: it ends no session. -/
def reauthenticationAnswered (app : App) (owner : ControllerID) (session : Option Session)
    (user : User) (newPassword : String) : Option NSError → App
  | none =>
      if isAlive app owner then
        let updating : Call := .password owner session (.updating user newPassword)
        { app with calls := app.calls ++ [updating] }
      else app
  | some _ => app

def expireSessionAndNavigateToLogin (app : App) (owner : ControllerID)
    (thrown : Option NSError) : App :=
  app.signOut thrown fun app => app.present owner .dismissThenNavigate

def passwordUpdateAnswered (app : App) (owner : ControllerID) (session : Option Session)
    (thrown : Option NSError) : Option NSError → App
  | none => if isAlive app owner then expireSessionAndNavigateToLogin app owner thrown else app
  | some error => app.signOutIfTokenIsInvalid session error

end PasswordViewController

/-! ## The machine -/

inductive Tap where
  | back
  | addReminderButton
  | profileButton
  | row (row : Nat)
  /-- `thrown` is what signing out throws -/
  | logoutButton (thrown : Option NSError)
  /-- Save on the Add screen, with these contents -/
  | saveAdded (screen : Add.Screen)
  /-- Save on the Edit screen, with these texts and the date picked last -/
  | saveEdited (titleView descriptionTextView : String) (dateString : Option String)
  | changePasswordButton
  | saveChangesButton (fields : Password.TextFields)
  /-- Login on the Login screen -/
  | login (email password : Option String)
  /-- Signup on the Login screen -/
  | toSignup
  /-- Signup on the Signup screen -/
  | signup (fields : SignupViewController.TextFields)
  /-- Login on the Signup screen -/
  | toLogin

inductive Event where
  | coldStart
  | tap (tap : Tap)
  /-- an event of the Home screen at a position of the stack -/
  | home (position : Nat) (event : Home.Event)
  | signInAnswered (call : Nat) (result : Except NSError User)
  | createUserAnswered (call : Nat) (result : Except NSError User)
  | commitAnswered (call : Nat) (error : Option NSError)
  | updateAnswered (call : Nat) (error : Option NSError)
  | passwordAnswered (call : Nat) (error : Option NSError) (thrown : Option NSError)
  /-- any other request of the user signed in has failed, of Firestore and Storage too -/
  | requestFailed (error : NSError)
  /-- a delayed block runs; `completes` is for an alert that was not presented -/
  | elapse (timer : Nat) (completes : Bool)

namespace App

/-- A tap on the top controller. -/
def tapped (app : App) (tap : Tap) : Option App :=
  let top := app.topViewController
  match top.screen, tap with
  | .home _, .addReminderButton => some app.pushAdd
  | .home _, .profileButton => some app.pushProfile
  | .home screen, .row row => some (HomeReminderTableViewController.didSelectRow app screen row)
  | .home _, .logoutButton thrown =>
      some (HomeReminderTableViewController.logoutButtonTapped app thrown)
  | .add, .saveAdded screen => some (AddReminderViewController.saveButtonTapped app screen)
  | .edit screen, .saveEdited titleView descriptionTextView dateString =>
      some (EditReminderViewController.saveButtonTapped app top.id
        { screen with titleView, descriptionTextView, dateString })
  | .profile, .changePasswordButton => some app.pushPassword
  | .password, .saveChangesButton fields =>
      some (PasswordViewController.saveChangesButtonPressed app top.id fields)
  | .login _, .login email password =>
      some (LoginViewController.loginButtonTapped app top.id email password)
  | .login _, .toSignup => some (LoginViewController.signupButtonTapped app)
  | .signup _, .signup fields =>
      some (SignupViewController.signupButtonTapped app top.id fields)
  | .signup _, .toLogin => some (SignupViewController.loginButtonTapped app)
  | screen, .back => if screen.hidesBackButton then none else some app.popViewController
  | _, _ => none

/-- A covered Home screen hears its listeners and the answers to its deletions; the
rest needs it on top, and what the user does, no alert. -/
def hears (app : App) (position : Nat) : Home.Event → Bool
  | .snapshot _ _ _ => true
  | .deletionAnswered _ _ user => user == app.currentUser
  | .viewWillAppear | .layout _ | .endDisplaying _ => position == 0
  | .textDidChange _ | .cancel | .swipeDelete _ | .longPress _ =>
      position == 0 && !app.isPresenting

/-- A delayed block runs. -/
def elapsed (app : App) (timer : Timer) (completes : Bool) : App :=
  match timer.block with
  | .dismissAlert => app
  | .navigateToLogin => if app.isOnStack timer.owner then app.pushLogin else app
  | .dismissThenNavigate =>
      if (timer.presented || completes) && app.isOnStack timer.owner then app.pushLogin else app

/-- A call is answered: it is no longer under way. -/
def removeCall (app : App) (index : Nat) : App := { app with calls := app.calls.eraseIdx index }

end App

def step (ops : Home.TextOps) (app : App) : Event → Option App
  | .coldStart => some (launch app.session)
  | .tap tap => if app.isPresenting then none else app.tapped tap
  | .home position event =>
      if app.hears position event then
        match app.home? position with
        | some screen => (Home.step ops screen event).map (app.setHome position)
        | none => none
      else none
  | .signInAnswered index result =>
      match app.calls[index]? with
      | some (.signIn owner _ _) =>
          some (LoginViewController.signedIn (app.removeCall index) owner result)
      | _ => none
  | .createUserAnswered index result =>
      match app.calls[index]? with
      | some (.createUser owner name _ _) =>
          some (SignupViewController.userCreated (app.removeCall index) owner name result)
      | _ => none
  | .commitAnswered index error =>
      match app.calls[index]? with
      | some (.commitChanges owner session _) =>
          some (SignupViewController.signedUp (app.removeCall index) owner session error)
      | _ => none
  | .updateAnswered index error =>
      match app.calls[index]? with
      | some (.updateReminder owner _ _) =>
          some (EditReminderViewController.reminderUpdated (app.removeCall index) owner error)
      | _ => none
  | .passwordAnswered index error thrown =>
      match app.calls[index]? with
      | some (.password owner session (.reauthenticating _ _ user newPassword)) =>
          some (PasswordViewController.reauthenticationAnswered (app.removeCall index) owner session
            user newPassword error)
      | some (.password owner session (.updating _ _)) =>
          some (PasswordViewController.passwordUpdateAnswered (app.removeCall index) owner session
            thrown error)
      | _ => none
  | .requestFailed error => some (app.signOutIfTokenIsInvalid app.session error)
  | .elapse index completes =>
      match app.timers[index]? with
      | some timer =>
          some ({ app with timers := app.timers.eraseIdx index }.elapsed timer completes)
      | none => none

/-- The app, started with anybody signed in or nobody. -/
def machine (ops : Home.TextOps) : Machine App Event where
  init app := ∃ session, app = launch session
  step := step ops

/-- No alert is up, and no push or pop waits for a delay. -/
def App.Settled (app : App) : Prop := app.timers = []

end Remindify.Navigation
