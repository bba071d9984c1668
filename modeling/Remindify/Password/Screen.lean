/-
# Password.Screen -- changing the password

`PasswordViewController.swift`.  A tap on Save starts a chain of callbacks:
reauthentication, then the password update, then the end of the session.  Nothing
locks the button, so several chains can be under way; each holds the values its
closures captured (`Chain`), and every call and answer is recorded in `log`.

The session belongs to the whole app: other screens sign users in and out while
this one waits, and its controller stays alive under the screens pushed over it.
A controller that was left is dead: its `weak self` closures do nothing.

`=` on strings stands for Swift's `==`, which compares up to canonical equivalence.
-/
import Remindify.Theory.Machine
import Remindify.Network.Authentication

namespace Remindify.Password

open Remindify.Theory
open Remindify.Network

set_option autoImplicit false

/-- The texts of `oldPasswordTextField`, `newPasswordTextField` and
`confirmPasswordTextField`. -/
structure TextFields where
  oldPassword : Option String
  newPassword : Option String
  confirmPassword : Option String
  deriving DecidableEq, Repr

inductive Color where
  | storyboard
  | white
  | red
  deriving DecidableEq, Repr

structure WarningLabel where
  isHidden : Bool := true
  text : String := ""
  textColor : Color := .storyboard
  deriving DecidableEq, Repr

/-- The state of the chain a tap started, with what its closures captured. -/
inductive Chain where
  | ended
  | reauthenticating (account : User) (credential : Credential) (user : User)
      (newPassword : String)
  | updating (user : User) (newPassword : String)
  deriving DecidableEq, Repr

/-- Calls and answers, each with the tap it belongs to. -/
inductive Entry where
  | tapped (tap : Nat) (session : Option Session) (fields : TextFields)
  | reauthenticated (tap : Nat) (account : User) (credential : Credential)
  | reauthenticationFailed (tap : Nat) (error : NSError)
  | updatePassword (tap : Nat) (user : User) (newPassword : String)
  | passwordUpdated (tap : Nat) (user : User)
  | passwordUpdateFailed (tap : Nat) (error : NSError)
  /-- the session that was current, and what FirebaseAuth threw -/
  | signOut (tap : Nat) (session : Option Session) (thrown : Option NSError)
  deriving DecidableEq, Repr

def Entry.tap : Entry → Nat
  | .tapped tap _ _ | .reauthenticated tap _ _ | .reauthenticationFailed tap _
  | .updatePassword tap _ _ | .passwordUpdated tap _ | .passwordUpdateFailed tap _
  | .signOut tap _ _ => tap

structure State where
  fields : TextFields
  warningLabel : WarningLabel
  session : Option Session
  /-- how many sign-ins there have been -/
  signIns : Nat
  alive : Bool
  /-- one for each tap on Save -/
  chains : List Chain
  /-- newest first -/
  log : List Entry
  deriving DecidableEq, Repr

/-! ## The warning label -/

def showNilFieldWarning (label : WarningLabel) : WarningLabel :=
  { label with isHidden := false, text := "Field can't be empty" }

def showIncorrectPasswordWarning (label : WarningLabel) : WarningLabel :=
  { label with isHidden := false, text := "Old password is incorrect" }

def showPasswordMismatchWarning (label : WarningLabel) : WarningLabel :=
  { label with isHidden := false, text := "Password and confirm password do not match" }

def handlePasswordChangeError : WarningLabel :=
  { isHidden := false, text := "Error changing password", textColor := .red }

/-- What `showPasswordChangeSuccess` shows. -/
def passwordChanged : WarningLabel :=
  { isHidden := false, text := "Password changed successfully", textColor := .white }

/-! ## The handlers -/

/-- `viewDidLoad`: the label is hidden. -/
def viewDidLoad (currentUser : Option User) (fields : TextFields) : State :=
  { fields, warningLabel := {}, session := currentUser.map (⟨·, 0⟩), signIns := 1
    alive := true, chains := [], log := [] }

/-- The private method `reauthenticateUser`: the label, and the chain it starts. -/
def reauthenticateUser (state : State) (user : User) (oldPassword : Option String)
    (newPassword : String) : WarningLabel × Chain :=
  match user.email, oldPassword with
  | some email, some oldPassword =>
      match FirebaseService.reauthenticateUser state.session ⟨email, oldPassword⟩ with
      | .ok (account, credential) =>
          (state.warningLabel, .reauthenticating account credential user newPassword)
      | .error _ => (showIncorrectPasswordWarning state.warningLabel, .ended)
  | _, _ => (showNilFieldWarning state.warningLabel, .ended)

/-- The guards of `saveChangesButtonPressed`. -/
def saveChanges (state : State) : WarningLabel × Chain :=
  match state.fields.newPassword, state.fields.confirmPassword with
  | some newPassword, some confirmPassword =>
      if newPassword = confirmPassword then
        match FirebaseService.currentUser state.session with
        | some user => reauthenticateUser state user state.fields.oldPassword newPassword
        | none => (state.warningLabel, .ended)
      else (showPasswordMismatchWarning state.warningLabel, .ended)
  | _, _ => (showPasswordMismatchWarning state.warningLabel, .ended)

def saveChangesButtonPressed (state : State) : State :=
  let (warningLabel, chain) := saveChanges state
  { state with
    warningLabel
    chains := state.chains ++ [chain]
    log := [.tapped state.chains.length state.session state.fields] ++ state.log }

/-- Chain `tap` writes entries and goes on as `chain`. -/
def State.advance (state : State) (tap : Nat) (chain : Chain) (entries : List Entry) : State :=
  { state with chains := state.chains.set tap chain, log := entries ++ state.log }

/-- `changeUserPassword`, after a reauthentication. -/
def changeUserPassword (state : State) (tap : Nat) (user : User) (newPassword : String)
    (earlier : List Entry) : State :=
  state.advance tap (.updating user newPassword)
    (.updatePassword tap user newPassword :: earlier)

/-- The completion of the reauthentication. -/
def reauthenticationAnswered (state : State) (tap : Nat) (account : User)
    (credential : Credential) (user : User) (newPassword : String) :
    Option NSError → State
  | some error =>
      let warningLabel :=
        if state.alive then showIncorrectPasswordWarning state.warningLabel
        else state.warningLabel
      { state with warningLabel }.advance tap .ended [.reauthenticationFailed tap error]
  | none =>
      if state.alive then
        changeUserPassword state tap user newPassword [.reauthenticated tap account credential]
      else state.advance tap .ended [.reauthenticated tap account credential]

/-- `expireSessionAndNavigateToLogin` signs out whoever is current. -/
def expireSessionAndNavigateToLogin (state : State) (tap : Nat) (thrown : Option NSError)
    (earlier : List Entry) : State :=
  let (session, _) := FirebaseService.signOut state.session thrown
  { state with session }.advance tap .ended (.signOut tap state.session thrown :: earlier)

/-- The completion of the password update; `thrown` is how signing out would end. -/
def passwordUpdateAnswered (state : State) (tap : Nat) (user : User) (thrown : Option NSError) :
    Option NSError → State
  | some error =>
      let warningLabel := if state.alive then handlePasswordChangeError else state.warningLabel
      { state with warningLabel }.advance tap .ended [.passwordUpdateFailed tap error]
  | none =>
      if state.alive then
        expireSessionAndNavigateToLogin { state with warningLabel := passwordChanged } tap thrown
          [.passwordUpdated tap user]
      else state.advance tap .ended [.passwordUpdated tap user]

/-! ## The machine -/

inductive Event where
  | edit (fields : TextFields)
  | saveChangesButtonPressed
  | reauthenticationAnswered (tap : Nat) (error : Option NSError)
  /-- `thrown` is what signing out throws, should it come to that -/
  | passwordUpdateAnswered (tap : Nat) (error : Option NSError) (thrown : Option NSError)
  /-- another screen signs a user in -/
  | signIn (user : User)
  /-- another screen signs out -/
  | signOut
  /-- the controller is popped and released -/
  | leave
  deriving DecidableEq, Repr

def step (state : State) : Event → Option State
  | .edit fields => if state.alive then some { state with fields } else none
  | .saveChangesButtonPressed =>
      if state.alive then some (saveChangesButtonPressed state) else none
  | .reauthenticationAnswered tap error =>
      match state.chains[tap]? with
      | some (.reauthenticating account credential user newPassword) =>
          some (reauthenticationAnswered state tap account credential user newPassword error)
      | _ => none
  | .passwordUpdateAnswered tap error thrown =>
      match state.chains[tap]? with
      | some (.updating user _) => some (passwordUpdateAnswered state tap user thrown error)
      | _ => none
  | .signIn user =>
      some { state with session := some ⟨user, state.signIns⟩, signIns := state.signIns + 1 }
  | .signOut => some { state with session := none }
  | .leave => some { state with alive := false }

/-- The Password screen, with any user signed in and any texts in the fields. -/
def machine : Machine State Event where
  init state := ∃ currentUser fields, state = viewDidLoad currentUser fields
  step := step

end Remindify.Password
