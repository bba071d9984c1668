/-
# Login.PasswordVisibility -- the eye button of Login and Signup

`LoginViewController.swift` and `SignupViewController.swift`.  Beginning to edit a
password field shows the eye button 100 ms later; the button shows and masks the
passwords; beginning another field, Return, a tap outside and the background mask them
and hide the button.  The two controllers differ in their text fields: `Form`.

* `masked_until_toggle`: from the background on the passwords are masked until the button
  is tapped again, whatever callbacks are outstanding;
* `legible_iff_selected`: a password is legible only while the button is shown, and
  the critter peeks;
* `throughout_followsEditing_iff`: the button is there for the editing of a password
  exactly in the runs in which no password field is left before its callback, and Confirm
  Password not by Return, a tap or the background after it.
-/
import Remindify.Theory.Machine
import Mathlib.Data.List.Basic

namespace Remindify.Login

open Remindify.Theory

set_option autoImplicit false

inductive TextField where
  | nameTextField
  | emailTextField
  | passwordTextField
  | confirmPasswordTextField
  deriving DecidableEq, Repr

def TextField.isPassword : TextField → Bool
  | .nameTextField | .emailTextField => false
  | .passwordTextField | .confirmPasswordTextField => true

/-- The text fields of a screen. -/
structure Form where
  textFields : List TextField
  deriving DecidableEq, Repr

def loginViewController : Form where
  textFields := [.emailTextField, .passwordTextField]

def signupViewController : Form where
  textFields := [.nameTextField, .emailTextField, .passwordTextField, .confirmPasswordTextField]

def Form.passwordTextFields (form : Form) : List TextField :=
  form.textFields.filter TextField.isPassword

structure CritterView where
  isEcstatic : Bool := false
  isShy : Bool := false
  isPeeking : Bool := false
  deriving DecidableEq, Repr

structure ShowHidePasswordButton where
  isHidden : Bool
  isSelected : Bool
  deriving DecidableEq, Repr

structure Screen where
  firstResponder : Option TextField := none
  isSecureTextEntry : TextField → Bool := TextField.isPassword
  showHidePasswordButton : ShowHidePasswordButton := { isHidden := true, isSelected := false }
  critterView : CritterView := {}
  /-- the fields whose callback of `textFieldDidBeginEditing` is outstanding, the first
  begun first -/
  callbacks : List TextField := []

section Operations

variable (form : Form)

/-- Every password field of the screen is assigned. -/
def setSecureTextEntry (isSecure : Bool) (screen : Screen) : Screen :=
  { screen with
    isSecureTextEntry := fun textField =>
      if textField ∈ form.passwordTextFields then isSecure
      else screen.isSecureTextEntry textField }

def passwordDidResignAsFirstResponder (screen : Screen) : Screen :=
  setSecureTextEntry form true
    { screen with
      critterView := { screen.critterView with isPeeking := false, isShy := false }
      showHidePasswordButton := { isHidden := true, isSelected := false } }

/-- The delegate is told, and waits. -/
def textFieldDidBeginEditing (textField : TextField) (screen : Screen) : Screen :=
  { screen with callbacks := screen.callbacks ++ [textField] }

/-- What `textFieldDidBeginEditing` does 100 ms later. -/
def textFieldBegan (textField : TextField) (screen : Screen) : Screen :=
  if textField.isPassword then
    { screen with
      critterView.isShy := true
      showHidePasswordButton.isHidden := false }
  else passwordDidResignAsFirstResponder form screen

/-- `becomeFirstResponder`: the first responder is not told again. -/
def becomeFirstResponder (textField : TextField) (screen : Screen) : Screen :=
  if screen.firstResponder = some textField then screen
  else textFieldDidBeginEditing textField { screen with firstResponder := some textField }

def resignFirstResponder (textField : TextField) (screen : Screen) : Screen :=
  if screen.firstResponder = some textField then { screen with firstResponder := none }
  else screen

def textFieldShouldReturn (textField : TextField) (screen : Screen) : Screen :=
  if textField = .emailTextField then becomeFirstResponder .passwordTextField screen
  else passwordDidResignAsFirstResponder form (resignFirstResponder .passwordTextField screen)

/-- `textFieldDidChange`, but for the head of the critter. -/
def textFieldDidChange (textField : TextField) (text : String) (isActiveStartAnimating : Bool)
    (screen : Screen) : Screen :=
  if isActiveStartAnimating then screen
  else if textField = .emailTextField ∨ textField = .nameTextField then
    { screen with critterView.isEcstatic := text.toList.contains '@' }
  else screen

/-- Only these two fields are resigned, on Signup too. -/
def stopHeadRotation (screen : Screen) : Screen :=
  passwordDidResignAsFirstResponder form
    (resignFirstResponder .passwordTextField (resignFirstResponder .emailTextField screen))

def togglePasswordVisibility (screen : Screen) : Screen :=
  let isPasswordVisible := !screen.showHidePasswordButton.isSelected
  setSecureTextEntry form (!isPasswordVisible)
    { screen with
      showHidePasswordButton.isSelected := isPasswordVisible
      critterView.isPeeking := isPasswordVisible }

end Operations

/-! ## The machine -/

inductive Event where
  | becomeFirstResponder (textField : TextField)
  | textFieldShouldReturn
  | textFieldDidChange (text : String) (isActiveStartAnimating : Bool)
  | handleTap
  | applicationDidEnterBackground
  | togglePasswordVisibility
  /-- the next callback of `textFieldDidBeginEditing` -/
  | textFieldBegan
  /-- the system ends the editing, and tells nobody but `textFieldDidEndEditing` -/
  | endEditing
  deriving DecidableEq, Repr

/-- A hidden button is not tapped. -/
def step (form : Form) (screen : Screen) : Event → Option Screen
  | .becomeFirstResponder textField =>
      if textField ∈ form.textFields then some (becomeFirstResponder textField screen) else none
  | .textFieldShouldReturn =>
      screen.firstResponder.map fun textField => textFieldShouldReturn form textField screen
  | .textFieldDidChange text isActiveStartAnimating =>
      screen.firstResponder.map fun textField =>
        textFieldDidChange textField text isActiveStartAnimating screen
  | .handleTap => some (stopHeadRotation form screen)
  | .applicationDidEnterBackground => some (stopHeadRotation form screen)
  | .togglePasswordVisibility =>
      if screen.showHidePasswordButton.isHidden then none
      else some (togglePasswordVisibility form screen)
  | .textFieldBegan =>
      match screen.callbacks with
      | textField :: callbacks => some (textFieldBegan form textField { screen with callbacks })
      | [] => none
  | .endEditing => screen.firstResponder.map fun _ => { screen with firstResponder := none }

def machine (form : Form) : Machine Screen Event where
  init screen := screen = {}
  step := step form

section Steps

variable {form : Form} {screen screen' : Screen} {event : Event}

/-- What an event can do. -/
inductive Effect (form : Form) (screen : Screen) : Event → Screen → Prop where
  | begun (textField : TextField) (different : screen.firstResponder ≠ some textField)
      {event : Event} (event_ : event = .becomeFirstResponder textField ∨
        event = .textFieldShouldReturn ∧ screen.firstResponder = some .emailTextField) :
      Effect form screen event
        { screen with
          firstResponder := some textField, callbacks := screen.callbacks ++ [textField] }
  | again (textField : TextField) (same : screen.firstResponder = some textField) :
      Effect form screen (.becomeFirstResponder textField) screen
  | left (firstResponder : Option TextField) {event : Event}
      (event_ : event = .textFieldShouldReturn ∨ event = .handleTap ∨
        event = .applicationDidEnterBackground)
      (stays : firstResponder = screen.firstResponder ∧
          screen.firstResponder ≠ some .passwordTextField ∨
        firstResponder = none ∧
          (screen.firstResponder = some .emailTextField ∨
            screen.firstResponder = some .passwordTextField)) :
      Effect form screen event
        (passwordDidResignAsFirstResponder form { screen with firstResponder })
  | changed (text : String) (isActiveStartAnimating isEcstatic : Bool) :
      Effect form screen (.textFieldDidChange text isActiveStartAnimating)
        { screen with critterView.isEcstatic := isEcstatic }
  | toggled (shown : screen.showHidePasswordButton.isHidden = false) :
      Effect form screen .togglePasswordVisibility (togglePasswordVisibility form screen)
  | began {textField : TextField} {callbacks : List TextField}
      (waiting : screen.callbacks = textField :: callbacks) :
      Effect form screen .textFieldBegan (textFieldBegan form textField { screen with callbacks })
  | ended (textField : TextField) (edited : screen.firstResponder = some textField) :
      Effect form screen .endEditing { screen with firstResponder := none }

theorem effect_stopHeadRotation (event_ : event = .handleTap ∨
    event = .applicationDidEnterBackground) :
    Effect form screen event (stopHeadRotation form screen) := by
  unfold stopHeadRotation resignFirstResponder
  by_cases email : screen.firstResponder = some .emailTextField
  · rw [if_pos email, if_neg nofun]
    exact .left none (Or.inr event_) (Or.inr ⟨rfl, Or.inl email⟩)
  · rw [if_neg email]
    by_cases password : screen.firstResponder = some .passwordTextField
    · rw [if_pos password]
      exact .left none (Or.inr event_) (Or.inr ⟨rfl, Or.inr password⟩)
    · rw [if_neg password]
      exact .left screen.firstResponder (Or.inr event_) (Or.inl ⟨rfl, password⟩)

theorem effect_textFieldShouldReturn {textField : TextField}
    (edited : screen.firstResponder = some textField) :
    Effect form screen .textFieldShouldReturn (textFieldShouldReturn form textField screen) := by
  unfold textFieldShouldReturn
  split
  · rename_i email
    subst email
    rw [becomeFirstResponder, edited, if_neg nofun]
    exact .begun .passwordTextField (by rw [edited]; nofun) (Or.inr ⟨rfl, edited⟩)
  · unfold resignFirstResponder
    split
    · rename_i password
      exact .left none (Or.inl rfl) (Or.inr ⟨rfl, Or.inr password⟩)
    · rename_i other
      exact .left screen.firstResponder (Or.inl rfl) (Or.inl ⟨rfl, other⟩)

theorem effect_of_step (moved : step form screen event = some screen') :
    Effect form screen event screen' := by
  cases event with
  | becomeFirstResponder textField =>
      simp only [step] at moved
      split at moved
      · cases moved
        unfold becomeFirstResponder
        split
        · rename_i same
          exact .again textField same
        · rename_i different
          exact .begun textField different (Or.inl rfl)
      · cases moved
  | textFieldShouldReturn =>
      obtain ⟨textField, edited, rfl⟩ := Option.map_eq_some_iff.1 moved
      exact effect_textFieldShouldReturn edited
  | textFieldDidChange text isActiveStartAnimating =>
      obtain ⟨textField, edited, rfl⟩ := Option.map_eq_some_iff.1 moved
      unfold textFieldDidChange
      split
      · exact .changed text isActiveStartAnimating screen.critterView.isEcstatic
      · split
        · exact .changed text isActiveStartAnimating (text.toList.contains '@')
        · exact .changed text isActiveStartAnimating screen.critterView.isEcstatic
  | handleTap =>
      cases moved
      exact effect_stopHeadRotation (Or.inl rfl)
  | applicationDidEnterBackground =>
      cases moved
      exact effect_stopHeadRotation (Or.inr rfl)
  | togglePasswordVisibility =>
      simp only [step] at moved
      split at moved
      · cases moved
      · rename_i shown
        cases moved
        exact .toggled (Bool.eq_false_iff.2 shown)
  | textFieldBegan =>
      simp only [step] at moved
      split at moved
      · rename_i waiting
        cases moved
        exact .began waiting
      · cases moved
  | endEditing =>
      obtain ⟨textField, edited, rfl⟩ := Option.map_eq_some_iff.1 moved
      exact .ended textField edited

end Steps

/-! ## Masked, or shown -/

/-- The flags that say whether the passwords are legible agree. -/
structure Consistent (form : Form) (screen : Screen) : Prop where
  secure : ∀ textField ∈ form.passwordTextFields,
    screen.isSecureTextEntry textField = !screen.showHidePasswordButton.isSelected
  peeking : screen.critterView.isPeeking = screen.showHidePasswordButton.isSelected
  hidden : screen.showHidePasswordButton.isHidden = !screen.critterView.isShy
  shown : screen.showHidePasswordButton.isSelected = true →
    screen.showHidePasswordButton.isHidden = false

section Consistent

variable {form : Form} {screen screen' : Screen} {event : Event}

theorem consistent_passwordDidResign (screen : Screen) :
    Consistent form (passwordDidResignAsFirstResponder form screen) where
  secure _ password := if_pos password
  peeking := rfl
  hidden := rfl
  shown := nofun

theorem Consistent.of_effect (consistent : Consistent form screen)
    (effect : Effect form screen event screen') : Consistent form screen' := by
  obtain ⟨secure, peeking, hidden, shown⟩ := consistent
  cases effect with
  | begun textField different _ => exact ⟨secure, peeking, hidden, shown⟩
  | again _ same => exact ⟨secure, peeking, hidden, shown⟩
  | left firstResponder _ _ => exact consistent_passwordDidResign _
  | changed text isActiveStartAnimating isEcstatic => exact ⟨secure, peeking, hidden, shown⟩
  | toggled isShown => exact ⟨fun _ password => if_pos password, rfl, hidden, fun _ => isShown⟩
  | began waiting =>
      unfold textFieldBegan
      split
      · exact ⟨secure, peeking, rfl, fun _ => rfl⟩
      · exact consistent_passwordDidResign _
  | ended textField edited => exact ⟨secure, peeking, hidden, shown⟩

theorem consistent_start : Consistent form {} where
  secure _ password := by
    rw [Form.passwordTextFields, List.mem_filter] at password
    exact password.2
  peeking := rfl
  hidden := rfl
  shown := nofun

theorem consistent_of_reachable (reached : (machine form).Reachable screen) :
    Consistent form screen :=
  reached.invariant (fun _ start => start ▸ consistent_start)
    fun _ _ _ _ consistent _ moved => consistent.of_effect (effect_of_step moved)

/-- **A password is legible only while the button is shown**, selected, and the critter
peeks out from behind its hands. -/
theorem legible_iff_selected (reached : (machine form).Reachable screen) {textField : TextField}
    (password : textField ∈ form.passwordTextFields) :
    screen.isSecureTextEntry textField = false ↔
      screen.showHidePasswordButton = { isHidden := false, isSelected := true } ∧
        screen.critterView.isShy = true ∧ screen.critterView.isPeeking = true := by
  obtain ⟨secure, peeking, hidden, shown⟩ := consistent_of_reachable reached
  rw [secure textField password, peeking]
  obtain ⟨firstResponder, isSecureTextEntry, ⟨isHidden, isSelected⟩, critterView, callbacks⟩ :=
    screen
  dsimp only at hidden shown ⊢
  cases isSelected with
  | true =>
      have isShown : isHidden = false := shown rfl
      have shy : critterView.isShy = true := by simpa [isShown] using hidden
      simp [isShown, shy]
  | false => simp

theorem toggled_legible :
    ∃ screen, (machine loginViewController).run {}
        [.becomeFirstResponder .passwordTextField, .textFieldBegan, .togglePasswordVisibility] =
          some screen ∧
      screen.isSecureTextEntry .passwordTextField = false :=
  ⟨_, rfl, (@legible_iff_selected loginViewController _
    (@Machine.reachable_of_run _ _ (machine loginViewController) {} _
      [.becomeFirstResponder .passwordTextField, .textFieldBegan, .togglePasswordVisibility]
      rfl rfl) .passwordTextField (by decide)).2 ⟨rfl, rfl, rfl⟩⟩

/-- Only a tap on the button selects it. -/
theorem Effect.isSelected (effect : Effect form screen event screen')
    (noToggle : event ≠ .togglePasswordVisibility)
    (masked : screen.showHidePasswordButton.isSelected = false) :
    screen'.showHidePasswordButton.isSelected = false := by
  cases effect with
  | begun textField different _ => exact masked
  | again textField same => exact masked
  | left firstResponder _ _ => rfl
  | changed text isActiveStartAnimating isEcstatic => exact masked
  | toggled isShown => exact absurd rfl noToggle
  | began waiting =>
      unfold textFieldBegan
      split
      · exact masked
      · rfl
  | ended textField edited => exact masked

theorem isSelected_of_run {events : List Event} (noToggle : .togglePasswordVisibility ∉ events)
    (masked : screen.showHidePasswordButton.isSelected = false)
    (ran : (machine form).run screen events = some screen') :
    screen'.showHidePasswordButton.isSelected = false := by
  induction events generalizing screen with
  | nil =>
      cases ran
      exact masked
  | cons event events ih =>
      rw [Machine.run_cons, Option.bind_eq_some_iff] at ran
      obtain ⟨next, moved, rest⟩ := ran
      rw [List.mem_cons, not_or] at noToggle
      exact ih noToggle.2 ((effect_of_step moved).isSelected (Ne.symm noToggle.1) masked) rest

/-- **From the background on the passwords are masked**, until the button is tapped. -/
theorem masked_until_toggle (reached : (machine form).Reachable screen) {events : List Event}
    (noToggle : .togglePasswordVisibility ∉ events)
    (ran : (machine form).run screen (.applicationDidEnterBackground :: events) = some screen')
    {textField : TextField} (password : textField ∈ form.passwordTextFields) :
    screen'.isSecureTextEntry textField = true := by
  have later : (machine form).Reachable screen' :=
    reached.of_run (Machine.runOk_of_forall (fun _ _ _ => trivial) screen) ran
  rw [Machine.run_cons, Option.bind_eq_some_iff] at ran
  obtain ⟨next, moved, rest⟩ := ran
  cases moved
  rw [(consistent_of_reachable later).secure textField password,
    isSelected_of_run noToggle rfl rest]
  rfl

/-- Confirm Password is left for the background at once; its callback comes all the same. -/
theorem background_masked :
    ∃ screen, (machine signupViewController).run {}
        [.becomeFirstResponder .confirmPasswordTextField, .applicationDidEnterBackground,
          .textFieldBegan] = some screen ∧
      screen.isSecureTextEntry .confirmPasswordTextField = true :=
  ⟨_, rfl, @masked_until_toggle signupViewController
    (becomeFirstResponder .confirmPasswordTextField {}) _
    ((Machine.Reach.init rfl).step (e := .becomeFirstResponder .confirmPasswordTextField)
      trivial rfl) [.textFieldBegan] (by decide) rfl _ (by decide)⟩

end Consistent

/-! ## The button, and the editing -/

section Editing

variable {form : Form} {screen screen' : Screen} {event : Event}

/-- The button is shown, once the outstanding callbacks have run. -/
def Shown (screen : Screen) : Prop :=
  match screen.callbacks.getLast? with
  | some textField => textField.isPassword = true
  | none => screen.showHidePasswordButton.isHidden = false

def EditsPassword (screen : Screen) : Prop :=
  ∃ textField, screen.firstResponder = some textField ∧ textField.isPassword = true

/-- **The button is there for the editing of a password.** -/
def FollowsEditing (screen : Screen) : Prop := Shown screen ↔ EditsPassword screen

/-- The editing of a password ends neither too early nor unnoticed: Password is not left
before its callback, and Confirm Password, which is not resigned, not after. -/
def InTime (screen : Screen) : Event → Prop
  | .textFieldShouldReturn | .handleTap | .applicationDidEnterBackground =>
      (screen.firstResponder = some .passwordTextField → screen.callbacks = []) ∧
        (screen.firstResponder = some .confirmPasswordTextField → screen.callbacks ≠ [])
  | .endEditing => ¬ EditsPassword screen
  | _ => True

theorem shown_of_nil (none : screen.callbacks = []) :
    Shown screen ↔ screen.showHidePasswordButton.isHidden = false := by
  rw [Shown, none, List.getLast?_nil]

theorem shown_of_concat {callbacks : List TextField} {textField : TextField}
    (last : screen.callbacks = callbacks ++ [textField]) :
    Shown screen ↔ textField.isPassword = true := by
  rw [Shown, last, List.getLast?_concat]

/-- A callback brings about what was expected of it. -/
theorem shown_textFieldBegan {textField : TextField} {callbacks : List TextField}
    (waiting : screen.callbacks = textField :: callbacks) :
    Shown (textFieldBegan form textField { screen with callbacks }) ↔ Shown screen := by
  have outstanding :
      (textFieldBegan form textField { screen with callbacks }).callbacks = callbacks := by
    unfold textFieldBegan
    split <;> rfl
  rcases List.eq_nil_or_concat' callbacks with rfl | ⟨before, last, rfl⟩
  · have only : screen.callbacks = [] ++ [textField] := waiting
    rw [shown_of_nil outstanding, shown_of_concat only]
    unfold textFieldBegan
    cases textField.isPassword with
    | true => exact iff_of_true rfl rfl
    | false => exact iff_of_false nofun nofun
  · have others : screen.callbacks = (textField :: before) ++ [last] := waiting
    rw [shown_of_concat outstanding, shown_of_concat others]

/-- After a password field was left, only a callback shows the button. -/
theorem shown_passwordDidResign (firstResponder : Option TextField) :
    Shown (passwordDidResignAsFirstResponder form { screen with firstResponder }) ↔
      screen.callbacks ≠ [] ∧ Shown screen := by
  have outstanding : (passwordDidResignAsFirstResponder form
      { screen with firstResponder }).callbacks = screen.callbacks := rfl
  rcases List.eq_nil_or_concat' screen.callbacks with done | ⟨before, last, waiting⟩
  · rw [shown_of_nil (outstanding.trans done)]
    exact iff_of_false nofun fun both => both.1 done
  · rw [shown_of_concat (outstanding.trans waiting), shown_of_concat waiting, waiting]
    exact (and_iff_right (List.concat_ne_nil last before)).symm

theorem editsPassword_iff : EditsPassword screen ↔
    screen.firstResponder = some .passwordTextField ∨
      screen.firstResponder = some .confirmPasswordTextField := by
  constructor
  · rintro ⟨textField, edited, password⟩
    cases textField with
    | nameTextField => cases password
    | emailTextField => cases password
    | passwordTextField => exact Or.inl edited
    | confirmPasswordTextField => exact Or.inr edited
  · rintro (edited | edited)
    · exact ⟨_, edited, rfl⟩
    · exact ⟨_, edited, rfl⟩

/-- **One event.** -/
theorem followsEditing_step_iff (follows : FollowsEditing screen)
    (moved : step form screen event = some screen') :
    FollowsEditing screen' ↔ InTime screen event := by
  cases effect_of_step moved with
  | begun textField different event_ =>
      have inTime : InTime screen event := by
        rcases event_ with rfl | ⟨rfl, email⟩
        · trivial
        · rw [InTime, email]
          exact ⟨nofun, nofun⟩
      refine iff_of_true ?_ inTime
      rw [FollowsEditing, shown_of_concat rfl]
      exact ⟨fun password => ⟨textField, rfl, password⟩,
        fun ⟨_, edited, password⟩ => Option.some.inj edited ▸ password⟩
  | again textField same => exact iff_of_true follows trivial
  | left firstResponder event_ stays =>
      have inTime : InTime screen event ↔
          (screen.firstResponder = some .passwordTextField → screen.callbacks = []) ∧
            (screen.firstResponder = some .confirmPasswordTextField → screen.callbacks ≠ []) := by
        rcases event_ with rfl | rfl | rfl <;> rfl
      have before : Shown screen ↔ EditsPassword screen := follows
      rw [inTime, FollowsEditing, shown_passwordDidResign, before, editsPassword_iff,
        editsPassword_iff]
      show (_ ∧ _ ↔ firstResponder = _ ∨ firstResponder = _) ↔ _
      rcases stays with ⟨rfl, notPassword⟩ | ⟨rfl, email | password⟩
      · simp [notPassword]
      · simp [email]
      · simp [password]
  | changed text isActiveStartAnimating isEcstatic => exact iff_of_true follows trivial
  | toggled isShown => exact iff_of_true follows trivial
  | began waiting =>
      refine iff_of_true ?_ trivial
      rw [FollowsEditing, shown_textFieldBegan waiting]
      refine follows.trans (iff_of_eq ?_)
      unfold EditsPassword textFieldBegan
      split <;> rfl
  | ended textField edited =>
      have nobody : ¬ EditsPassword { screen with firstResponder := none } :=
        fun ⟨_, edited, _⟩ => nomatch edited
      rw [FollowsEditing, iff_false_right nobody]
      exact not_congr follows

theorem followsEditing_start : FollowsEditing {} := by
  rw [FollowsEditing, shown_of_nil rfl]
  exact iff_of_false nofun fun ⟨_, edited, _⟩ => nomatch edited

/-- **The button follows the editing** exactly in the runs that end the editing of a
password in time. -/
theorem throughout_followsEditing_iff (form : Form) (events : List Event) :
    (machine form).Throughout FollowsEditing {} events ↔ (machine form).RunOk InTime {} events :=
  Machine.throughout_iff_runOk (M := machine form) (I := fun _ => True) (P := FollowsEditing)
    (fun _ _ _ _ _ _ _ => trivial)
    (fun _ _ _ _ follows moved => followsEditing_step_iff follows moved) trivial
    followsEditing_start events

end Editing

end Remindify.Login
