/-
# Saving.Report -- what the screens say about a save

Save on the Add screen hands the reminder to the service and pops at once; the alert
"Reminder Added" waits for the answer.  Save on the Edit screen waits with the pop and
presents "Reminder Updated" at once.

A `Form` is one of the two screens with what it asked the service for and which alerts
it presented; `FormClient` is what the two do at Save and at the answer.

* `added_reported`: the Add screen's alert is always true;
* `edited_kept`: the Edit screen stays until a write is confirmed, with its texts, and
  shows a warning for one that failed;
* `throughout_truthful_iff`: the exact runs in which either screen does both, those in
  which Save never gets past the title check;
* `addWithoutUser_lost`: a reminder saved by nobody.

An answer may come at any time or never; a controller off the stack may be released.
-/
import Remindify.Theory.Machine
import Remindify.Add.Screen
import Remindify.Edit.Screen

namespace Remindify.Saving

open Remindify.Theory
open Remindify.Network

set_option autoImplicit false

/-- Where a screen is: on the stack, left by the user, or popped by the program. -/
inductive Place where
  | onStack
  | left
  | popped
  deriving DecidableEq, Repr

/-- What has become of a save.  Without a signed-in user nothing is asked of Firestore
and no answer comes. -/
inductive Fate where
  | unasked
  | asked
  | confirmed
  | failed
  deriving DecidableEq, Repr

structure Attempt where
  reminder : ReminderModel
  fate : Fate
  deriving DecidableEq, Repr

/-- What the user entered last. -/
structure Entered where
  title : String
  description : String
  date : Option String
  deriving DecidableEq, Repr

structure Form (S : Type) where
  screen : S
  place : Place
  alive : Bool
  /-- the saves that got past the title check -/
  attempts : List Attempt
  /-- the success alerts presented, each by the save it is about -/
  alerts : List Nat
  entered : Entered

/-- What a screen does with its texts, at Save and at an answer. -/
structure FormClient (S : Type) where
  entered : S → Entered
  enter : Entered → S → S
  isWarning : S → Bool
  /-- `saveButtonTapped`, with whoever is signed in -/
  save : Option User → Form S → Form S
  /-- the completion of the save, on a live controller; `inWindow` is whether UIKit can
  still present on it -/
  answered : Nat → ReminderModel → Option NSError → Bool → Form S → Option (Form S)

/-! ## The two screens -/

/-- `popViewController`, which a controller off the stack does not reach. -/
def Form.pop {S : Type} (form : Form S) : Form S :=
  if form.place = .onStack then { form with place := .popped } else form

def Form.present {S : Type} (form : Form S) (attempt : Nat) : Form S :=
  { form with alerts := form.alerts ++ [attempt] }

/-- `AddReminderViewController`. -/
def addClient : FormClient Add.Screen where
  entered screen := ⟨screen.titleView, screen.descriptionTextView, screen.selectedDate⟩
  enter entered screen :=
    { screen with
      titleView := entered.title
      descriptionTextView := entered.description
      selectedDate := entered.date }
  isWarning screen := !screen.warningLabel.isHidden
  save currentUser form :=
    match Add.saveButtonTapped form.screen with
    | (screen, some reminder) =>
        let fate : Fate :=
          match FirebaseService.addReminder currentUser reminder with
          | some _ => .asked
          | none => .unasked
        let form : Form Add.Screen :=
          { form with screen, attempts := form.attempts ++ [⟨reminder, fate⟩] }
        form.pop
    | (screen, none) => { form with screen }
  answered attempt _ error inWindow form :=
    match error with
    | some _ => some form
    | none => some (if inWindow then form.present attempt else form)

/-- `EditReminderViewController`. -/
def editClient (parse : String → Option Nat) : FormClient Edit.Screen where
  entered screen := ⟨screen.titleView, screen.descriptionTextView, screen.dateString⟩
  enter entered screen :=
    { screen with
      titleView := entered.title
      descriptionTextView := entered.description
      dateString := entered.date }
  isWarning screen := !screen.warningLabel.isHidden
  save _ form :=
    match Edit.saveButtonTapped form.screen with
    | (screen, some reminder) =>
        let form : Form Edit.Screen :=
          match FirebaseService.updateReminder reminder with
          | .ok _ => { form with screen, attempts := form.attempts ++ [⟨reminder, .asked⟩] }
          | .error _ =>
              { form with
                screen := screen.warn "Error updating document"
                attempts := form.attempts ++ [⟨reminder, .failed⟩] }
        form.present (form.attempts.length - 1)
    | (screen, none) => { form with screen }
  answered _ reminder error _ form :=
    match Edit.reminderUpdated parse form.screen reminder error with
    | .ok (screen, _) =>
        match error with
        | some _ => some { form with screen }
        | none =>
            let form : Form Edit.Screen := { form with screen }
            some form.pop
    | .error _ => none

/-- An answer has come: the write is confirmed, or it failed. -/
def Form.settle {S : Type} (form : Form S) (attempt : Nat) (reminder : ReminderModel)
    (error : Option NSError) : Form S :=
  { form with
    attempts := form.attempts.set attempt
      ⟨reminder, if error.isSome then .failed else .confirmed⟩ }

/-! ## The machine -/

inductive Event where
  /-- the texts or the date change -/
  | enter (entered : Entered)
  | save (currentUser : Option User)
  | answer (attempt : Nat) (error : Option NSError) (inWindow : Bool)
  | back
  /-- a controller off the stack is released -/
  | release

section Machine

variable {S : Type} (client : FormClient S)

/-- A screen just shown. -/
def opened (screen : S) : Form S :=
  { screen, place := .onStack, alive := true, attempts := [], alerts := []
    entered := client.entered screen }

def step (form : Form S) : Event → Option (Form S)
  | .enter entered =>
      if form.place = .onStack then
        some { form with screen := client.enter entered form.screen, entered }
      else none
  | .save currentUser =>
      if form.place = .onStack then some (client.save currentUser form) else none
  | .answer attempt error inWindow =>
      match form.attempts[attempt]? with
      | some ⟨reminder, .asked⟩ =>
          let form := form.settle attempt reminder error
          if form.alive then client.answered attempt reminder error inWindow form else some form
      | _ => none
  | .back => if form.place = .onStack then some { form with place := .left } else none
  | .release => if form.place = .onStack then none else some { form with alive := false }

/-- The screen from its opening on. -/
def machine (start : S → Prop) : Machine (Form S) Event where
  init form := ∃ screen, start screen ∧ form = opened client screen
  step := step client

/-- **Saves are reported truthfully and failed input is kept**: a success alert is about
a confirmed write; unless a write is confirmed the program leaves the screen on the
stack, with what was entered; and for a failed one it shows a warning. -/
structure Truthful (form : Form S) : Prop where
  reported : ∀ alert ∈ form.alerts, ∃ attempt, form.attempts[alert]? = some attempt ∧
    attempt.fate = .confirmed
  stays : ∀ attempt ∈ form.attempts, attempt.fate ≠ .confirmed → form.place ≠ .popped
  keeps : client.entered form.screen = form.entered
  warns : ∀ attempt ∈ form.attempts, attempt.fate = .failed → form.place = .onStack →
    client.isWarning form.screen = true

/-- The condition on an event, by the screens whose Save is refused. -/
def Refused (refuses : S → Prop) (form : Form S) : Event → Prop
  | .save _ => refuses form.screen
  | _ => True

end Machine

/-- Save on the Add screen warns. -/
def addRefuses (screen : Add.Screen) : Prop := screen.titleView.isEmpty = true

/-- Save on the Edit screen warns, or does nothing. -/
def editRefuses (screen : Edit.Screen) : Prop :=
  screen.titleView = "" ∨ screen.reminder = none

/-! ## What an event does -/

section Effect

variable {S : Type}

/-- The effects an event has, every one of them. -/
inductive Effect (client : FormClient S) (form : Form S) : Event → Form S → Prop where
  | entered (here : form.place = .onStack) (entered : Entered) :
      Effect client form (.enter entered)
        { form with screen := client.enter entered form.screen, entered }
  | saved (here : form.place = .onStack) (currentUser : Option User) :
      Effect client form (.save currentUser) (client.save currentUser form)
  | answered {attempt : Nat} {reminder : ReminderModel} {error : Option NSError}
      {inWindow : Bool} {form' : Form S}
      (asked : form.attempts[attempt]? = some ⟨reminder, .asked⟩)
      (heard : client.answered attempt reminder error inWindow
        (form.settle attempt reminder error) = some form') :
      Effect client form (.answer attempt error inWindow) form'
  | unheard {attempt : Nat} {reminder : ReminderModel} {error : Option NSError}
      {inWindow : Bool} (asked : form.attempts[attempt]? = some ⟨reminder, .asked⟩)
      (gone : ¬ form.alive = true) :
      Effect client form (.answer attempt error inWindow) (form.settle attempt reminder error)
  | left (here : form.place = .onStack) : Effect client form .back { form with place := .left }
  | released (away : form.place ≠ .onStack) :
      Effect client form .release { form with alive := false }

/-- **The effect of a step.** -/
theorem effect_of_step {client : FormClient S} {form form' : Form S} {event : Event}
    (moved : step client form event = some form') : Effect client form event form' := by
  cases event with
  | enter entered =>
      simp only [step] at moved
      split at moved
      · rename_i here
        cases moved
        exact .entered here entered
      · cases moved
  | save currentUser =>
      simp only [step] at moved
      split at moved
      · rename_i here
        cases moved
        exact .saved here currentUser
      · cases moved
  | answer attempt error inWindow =>
      simp only [step] at moved
      split at moved
      · rename_i reminder asked
        split at moved
        · exact .answered asked moved
        · rename_i gone
          cases moved
          exact .unheard asked gone
      · cases moved
  | back =>
      simp only [step] at moved
      split at moved
      · rename_i here
        cases moved
        exact .left here
      · cases moved
  | release =>
      simp only [step] at moved
      split at moved
      · cases moved
      · rename_i away
        cases moved
        exact .released away

end Effect

/-! ## Runs in which nothing is saved -/

section Lawful

variable {S : Type}

/-- No save got past the title check. -/
structure Untried (form : Form S) : Prop where
  attempts : form.attempts = []
  alerts : form.alerts = []

/-- What the two screens have in common: a refused Save changes no text, and one that is
not refused is reported or answered by leaving too early. -/
structure Lawful (client : FormClient S) (refuses : S → Prop) : Prop where
  enter : ∀ entered screen, client.entered (client.enter entered screen) = entered
  refused : ∀ currentUser (form : Form S), refuses form.screen →
    ∃ screen, client.save currentUser form = { form with screen } ∧
      client.entered screen = client.entered form.screen
  accepted : ∀ currentUser (form : Form S), ¬ refuses form.screen → Untried form →
    form.place = .onStack → ¬ Truthful client (client.save currentUser form)

variable {client : FormClient S} {refuses : S → Prop} {form form' : Form S} {event : Event}

theorem Untried.truthful (untried : Untried form)
    (keeps : client.entered form.screen = form.entered) : Truthful client form where
  reported alert member := by
    rw [untried.alerts] at member
    cases member
  stays attempt member := by
    rw [untried.attempts] at member
    cases member
  keeps := keeps
  warns attempt member := by
    rw [untried.attempts] at member
    cases member

/-- An event while nothing was saved: it is a Save that is not refused, or nothing is
saved after it either. -/
theorem Lawful.step_cases (lawful : Lawful client refuses) (untried : Untried form)
    (truthful : Truthful client form) (moved : step client form event = some form') :
    (Refused refuses form event ∧ Untried form' ∧ client.entered form'.screen = form'.entered) ∨
      (¬ Refused refuses form event ∧ ¬ Truthful client form') := by
  cases effect_of_step moved with
  | entered here entered =>
      exact Or.inl ⟨trivial, ⟨untried.attempts, untried.alerts⟩, lawful.enter _ _⟩
  | saved here currentUser =>
      by_cases refuses_ : refuses form.screen
      · obtain ⟨screen, saved, same⟩ := lawful.refused currentUser form refuses_
        rw [saved]
        exact Or.inl ⟨refuses_, ⟨untried.attempts, untried.alerts⟩, same.trans truthful.keeps⟩
      · exact Or.inr ⟨refuses_, lawful.accepted currentUser form refuses_ untried here⟩
  | answered asked | unheard asked =>
      rw [untried.attempts] at asked
      cases asked
  | left | released =>
      exact Or.inl ⟨trivial, ⟨untried.attempts, untried.alerts⟩, truthful.keeps⟩

/-- **One screen**: its saves are reported truthfully and its input is kept throughout a
run exactly when every Save is refused. -/
theorem Lawful.throughout_iff (lawful : Lawful client refuses) (start : S → Prop) (screen : S)
    (es : List Event) :
    (machine client start).Throughout (Truthful client) (opened client screen) es ↔
      (machine client start).RunOk (Refused refuses) (opened client screen) es := by
  have untried : Untried (opened client screen) := ⟨rfl, rfl⟩
  refine Machine.throughout_iff_runOk (M := machine client start) (I := Untried)
    (P := Truthful client) (fun form event form' untried truthful moved truthful' => ?_)
    (fun form event form' untried truthful moved => ?_) untried (untried.truthful rfl) es
  · obtain ⟨-, untried', -⟩ | ⟨-, lost⟩ := lawful.step_cases untried truthful moved
    · exact untried'
    · exact absurd truthful' lost
  · obtain ⟨refused, untried', keeps⟩ | ⟨accepted, lost⟩ :=
      lawful.step_cases untried truthful moved
    · exact ⟨fun _ => refused, fun _ => untried'.truthful keeps⟩
    · exact ⟨fun truthful' => absurd truthful' lost, fun refused => absurd refused accepted⟩

end Lawful

/-! ## Add -/

/-- An accepted Save on the Add screen: a request or none, and off the stack. -/
theorem addClient_save_of_accepted (currentUser : Option User) {form : Form Add.Screen}
    (accepted : ¬ addRefuses form.screen) :
    ∃ reminder fate, (fate = .asked ∨ fate = .unasked) ∧
      addClient.save currentUser form =
        { form with attempts := form.attempts ++ [⟨reminder, fate⟩] : Form Add.Screen }.pop := by
  have saved : Add.saveButtonTapped form.screen = (form.screen, some
      { title := some form.screen.titleView
        description := some form.screen.descriptionTextView
        date := form.screen.selectedDate }) := by
    unfold Add.saveButtonTapped
    exact if_neg accepted
  simp only [addClient, saved]
  cases currentUser with
  | none => exact ⟨_, .unasked, Or.inr rfl, rfl⟩
  | some user => exact ⟨_, .asked, Or.inl rfl, rfl⟩

theorem addClient_save_of_refused (currentUser : Option User) {form : Form Add.Screen}
    (refused : addRefuses form.screen) :
    addClient.save currentUser form =
      { form with
        screen := { form.screen with
          warningLabel := { isHidden := false, text := "Title can't be empty" } } } := by
  have saved : (Add.saveButtonTapped form.screen) =
      ({ form.screen with
        warningLabel := { isHidden := false, text := "Title can't be empty" } }, none) := by
    unfold Add.saveButtonTapped
    exact if_pos refused
  simp only [addClient, saved]

theorem addClient_lawful : Lawful addClient addRefuses where
  enter _ _ := rfl
  refused currentUser form refused :=
    ⟨_, addClient_save_of_refused currentUser refused, rfl⟩
  accepted currentUser form accepted untried here truthful := by
    obtain ⟨reminder, fate, unconfirmed, saved⟩ := addClient_save_of_accepted currentUser accepted
    rw [saved] at truthful
    have popped : ({ form with attempts := form.attempts ++ [⟨reminder, fate⟩] :
        Form Add.Screen }.pop).place = .popped := by
      simp only [Form.pop, here, if_true]
    have kept : ({ form with attempts := form.attempts ++ [⟨reminder, fate⟩] :
        Form Add.Screen }.pop).attempts = form.attempts ++ [⟨reminder, fate⟩] := by
      simp only [Form.pop, here, if_true]
    refine truthful.stays ⟨reminder, fate⟩ (by rw [kept]; simp) ?_ popped
    rcases unconfirmed with rfl | rfl
    · exact Fate.noConfusion
    · exact Fate.noConfusion

/-- What every form of the Add screen satisfies: its alerts are true, and after a save it
is gone. -/
structure AddInvariant (form : Form Add.Screen) : Prop where
  reported : ∀ alert ∈ form.alerts, ∃ attempt, form.attempts[alert]? = some attempt ∧
    attempt.fate = .confirmed
  gone : form.attempts ≠ [] → form.place = .popped

theorem addInvariant_save (currentUser : Option User) {form : Form Add.Screen}
    (invariant : AddInvariant form) (here : form.place = .onStack) :
    AddInvariant (addClient.save currentUser form) := by
  by_cases refused : addRefuses form.screen
  · rw [addClient_save_of_refused currentUser refused]
    exact ⟨invariant.reported, invariant.gone⟩
  · obtain ⟨reminder, fate, -, saved⟩ := addClient_save_of_accepted currentUser refused
    rw [saved, Form.pop, if_pos here]
    refine ⟨fun alert member => ?_, fun _ => rfl⟩
    obtain ⟨attempt, at_, confirmed⟩ := invariant.reported alert member
    have inRange := (List.getElem?_eq_some_iff.1 at_).1
    exact ⟨attempt, (List.getElem?_append_left inRange).trans at_, confirmed⟩

/-- An answer settles one save and no other. -/
theorem addInvariant_settle {form : Form Add.Screen} (invariant : AddInvariant form)
    {index : Nat} {reminder : ReminderModel}
    (asked : form.attempts[index]? = some ⟨reminder, .asked⟩) (error : Option NSError) :
    AddInvariant (form.settle index reminder error) := by
  refine ⟨fun alert member => ?_, fun _ => ?_⟩
  · obtain ⟨attempt, at_, confirmed⟩ := invariant.reported alert member
    have other : index ≠ alert := by
      rintro rfl
      cases asked.symm.trans at_
      cases confirmed
    exact ⟨attempt, (List.getElem?_set_ne other).trans at_, confirmed⟩
  · exact invariant.gone (List.ne_nil_of_mem (List.mem_of_getElem? asked))

/-- An alert for a save just confirmed. -/
theorem addInvariant_present {form : Form Add.Screen} (invariant : AddInvariant form)
    {index : Nat} {attempt : Attempt} (at_ : form.attempts[index]? = some attempt)
    (confirmed : attempt.fate = .confirmed) : AddInvariant (form.present index) := by
  refine ⟨fun alert member => ?_, invariant.gone⟩
  rcases List.mem_append.1 member with old | new
  · exact invariant.reported alert old
  · rw [List.mem_singleton.1 new]
    exact ⟨attempt, at_, confirmed⟩

theorem addInvariant_step {form form' : Form Add.Screen} {event : Event}
    (invariant : AddInvariant form) (moved : step addClient form event = some form') :
    AddInvariant form' := by
  cases effect_of_step moved with
  | entered | released => exact ⟨invariant.reported, invariant.gone⟩
  | saved here currentUser => exact addInvariant_save currentUser invariant here
  | unheard asked => exact addInvariant_settle invariant asked _
  | @answered index reminder error inWindow _ asked heard =>
      have settled := addInvariant_settle invariant asked error
      cases error with
      | some error =>
          cases heard
          exact settled
      | none =>
          cases inWindow with
          | false =>
              cases heard
              exact settled
          | true =>
              cases heard
              have inRange := (List.getElem?_eq_some_iff.1 asked).1
              exact addInvariant_present settled (List.getElem?_set_self inRange) rfl
  | left here =>
      refine ⟨invariant.reported, fun saved => ?_⟩
      have popped := invariant.gone saved
      rw [here] at popped
      cases popped

theorem addInvariant_of_reachable {start : Add.Screen → Prop} {form : Form Add.Screen}
    (reached : (machine addClient start).Reachable form) : AddInvariant form :=
  reached.invariant (I := AddInvariant)
    (by
      rintro _ ⟨screen, -, rfl⟩
      exact ⟨fun alert member => (by cases member), fun saved => absurd rfl saved⟩)
    (fun _ _ _ _ invariant _ moved => addInvariant_step invariant moved)

/-- **The Add screen's alert is always true.** -/
theorem added_reported {start : Add.Screen → Prop} {form : Form Add.Screen}
    (reached : (machine addClient start).Reachable form) {alert : Nat}
    (shown : alert ∈ form.alerts) :
    ∃ attempt, form.attempts[alert]? = some attempt ∧ attempt.fate = .confirmed :=
  (addInvariant_of_reachable reached).reported alert shown

/-- Ann saves "Milk" and hears of it. -/
def milkAdded : Form Add.Screen :=
  ((machine addClient (· = {})).run (opened addClient {})
    [.enter ⟨"Milk", "", none⟩, .save (some ⟨"ann", none⟩), .answer 0 none true]).getD
      (opened addClient {})

theorem milkAdded_reported :
    ∃ attempt, milkAdded.attempts[0]? = some attempt ∧ attempt.fate = .confirmed := by
  have ran : (machine addClient (· = {})).run (opened addClient {})
      [.enter ⟨"Milk", "", none⟩, .save (some ⟨"ann", none⟩), .answer 0 none true] =
        some milkAdded := rfl
  have reached : (machine addClient (· = {})).Reachable milkAdded :=
    Machine.reachable_of_run ⟨_, rfl, rfl⟩ ran
  exact added_reported reached (List.mem_singleton_self 0)

/-- **The Add screen keeps no input**: after a save it is off the stack, whatever becomes
of the write. -/
theorem added_gone {start : Add.Screen → Prop} {form : Form Add.Screen}
    (reached : (machine addClient start).Reachable form) (saved : form.attempts ≠ []) :
    form.place = .popped :=
  (addInvariant_of_reachable reached).gone saved

/-! ## Edit -/

section Edit

variable (parse : String → Option Nat)

/-- An accepted Save on the Edit screen: the alert, before any answer. -/
theorem editClient_save_of_accepted (currentUser : Option User) {form : Form Edit.Screen}
    (accepted : ¬ editRefuses form.screen) :
    ∃ reminder fate screen, (fate = .asked ∧ screen = form.screen ∨
        fate = .failed ∧ screen = form.screen.warn "Error updating document") ∧
      (editClient parse).save currentUser form =
        { form with
          screen
          attempts := form.attempts ++ [⟨reminder, fate⟩]
          alerts := form.alerts ++ [form.attempts.length] } := by
  unfold editRefuses at accepted
  push Not at accepted
  obtain ⟨typed, given⟩ := accepted
  obtain ⟨copy, given⟩ := Option.ne_none_iff_exists'.1 given
  obtain ⟨reminder, saved⟩ : ∃ reminder,
      Edit.saveButtonTapped form.screen = (form.screen, some reminder) := by
    simp only [Edit.saveButtonTapped, given, Option.some.injEq, if_neg typed]
    exact ⟨_, rfl⟩
  simp only [editClient, saved]
  cases FirebaseService.updateReminder reminder with
  | ok request =>
      refine ⟨reminder, .asked, form.screen, Or.inl ⟨rfl, rfl⟩, ?_⟩
      simp [Form.present]
  | error error =>
      refine ⟨reminder, .failed, _, Or.inr ⟨rfl, rfl⟩, ?_⟩
      simp [Form.present]

/-- A refused Save on the Edit screen at most warns. -/
theorem editClient_save_of_refused (currentUser : Option User) {form : Form Edit.Screen}
    (refused : editRefuses form.screen) :
    ∃ screen, (screen = form.screen ∨ screen = form.screen.warn "Title can't be empty") ∧
      (editClient parse).save currentUser form = { form with screen } := by
  cases given : form.screen.reminder with
  | none =>
      have saved : Edit.saveButtonTapped form.screen = (form.screen, none) := by
        simp only [Edit.saveButtonTapped, given]
      exact ⟨form.screen, Or.inl rfl, by simp only [editClient, saved]⟩
  | some copy =>
      have empty : form.screen.titleView = "" := by
        refine refused.resolve_right fun none_ => ?_
        rw [given] at none_
        cases none_
      have saved : Edit.saveButtonTapped form.screen =
          (form.screen.warn "Title can't be empty", none) := by
        simp only [Edit.saveButtonTapped, given, Option.some.injEq, if_pos empty]
      exact ⟨_, Or.inr rfl, by simp only [editClient, saved]⟩

theorem editClient_lawful : Lawful (editClient parse) editRefuses where
  enter _ _ := rfl
  refused currentUser form refused := by
    obtain ⟨screen, same, saved⟩ := editClient_save_of_refused parse currentUser refused
    refine ⟨screen, saved, ?_⟩
    rcases same with rfl | rfl
    · rfl
    · rfl
  accepted currentUser form accepted untried _ truthful := by
    obtain ⟨reminder, fate, screen, unconfirmed, saved⟩ :=
      editClient_save_of_accepted parse currentUser accepted
    rw [saved] at truthful
    obtain ⟨attempt, at_, confirmed⟩ := truthful.reported form.attempts.length (by simp)
    simp only [List.getElem?_concat_length, Option.some.injEq] at at_
    subst at_
    rcases unconfirmed with ⟨rfl, -⟩ | ⟨rfl, -⟩
    · cases confirmed
    · cases confirmed

/-- The screen afterwards is the same, but for a warning. -/
def WarnsAtMost (screen screen' : Edit.Screen) : Prop :=
  screen' = screen ∨ ∃ text, screen' = screen.warn text

/-- What the completion does to the Edit screen: a failure warns. -/
theorem reminderUpdated_screen {screen screen' : Edit.Screen} {reminder : ReminderModel}
    {error : Option NSError} {request : Option Alarm.NotificationRequest}
    (updated : Edit.reminderUpdated parse screen reminder error = .ok (screen', request)) :
    WarnsAtMost screen screen' ∧ (error.isSome = true → screen'.warningLabel.isHidden = false) := by
  cases error with
  | some error =>
      cases updated
      exact ⟨Or.inr ⟨_, rfl⟩, fun _ => rfl⟩
  | none =>
      refine ⟨?_, fun failed => by cases failed⟩
      simp only [Edit.reminderUpdated, Edit.scheduleAlarmNotification] at updated
      split at updated
      · split at updated
        · split at updated
          · split at updated
            · cases updated
              exact Or.inl rfl
            · cases updated
              exact Or.inr ⟨_, rfl⟩
          · cases updated
        · cases updated
          exact Or.inr ⟨_, rfl⟩
      · cases updated
        exact Or.inl rfl

/-- What every form of the Edit screen satisfies. -/
structure EditInvariant (form : Form Edit.Screen) : Prop where
  stays : form.place = .popped → ∃ attempt ∈ form.attempts, attempt.fate = .confirmed
  keeps : (editClient parse).entered form.screen = form.entered
  lives : form.place = .onStack → form.alive = true
  warns : form.alive = true → ∀ attempt ∈ form.attempts, attempt.fate = .failed →
    form.screen.warningLabel.isHidden = false

variable {parse}

/-- The same form, with at most a warning more. -/
theorem EditInvariant.warn {form : Form Edit.Screen} (invariant : EditInvariant parse form)
    {screen : Edit.Screen} (same : WarnsAtMost form.screen screen) :
    EditInvariant parse { form with screen } := by
  rcases same with rfl | ⟨text, rfl⟩
  · exact invariant
  · exact ⟨invariant.stays, invariant.keeps, invariant.lives, fun _ _ _ _ => rfl⟩

/-- Popping is fine once a write is confirmed. -/
theorem EditInvariant.pop {form : Form Edit.Screen} (invariant : EditInvariant parse form)
    (confirmed : ∃ attempt ∈ form.attempts, attempt.fate = .confirmed) :
    EditInvariant parse form.pop := by
  unfold Form.pop
  split
  · exact ⟨fun _ => confirmed, invariant.keeps, fun here => (by cases here), invariant.warns⟩
  · exact invariant

theorem editInvariant_save (currentUser : Option User) {form : Form Edit.Screen}
    (invariant : EditInvariant parse form) (here : form.place = .onStack) :
    EditInvariant parse ((editClient parse).save currentUser form) := by
  by_cases refused : editRefuses form.screen
  · obtain ⟨screen, same, saved⟩ := editClient_save_of_refused parse currentUser refused
    rw [saved]
    exact invariant.warn (same.imp_right fun warned => ⟨_, warned⟩)
  · obtain ⟨reminder, fate, screen, outcome, saved⟩ :=
      editClient_save_of_accepted parse currentUser refused
    rw [saved]
    have popped : form.place ≠ .popped := by
      rw [here]
      decide
    rcases outcome with ⟨rfl, rfl⟩ | ⟨rfl, rfl⟩
    · refine ⟨fun gone => absurd gone popped, invariant.keeps, invariant.lives,
        fun alive attempt member failed => ?_⟩
      rcases List.mem_append.1 member with old | new
      · exact invariant.warns alive attempt old failed
      · rw [List.mem_singleton.1 new] at failed
        cases failed
    · exact ⟨fun gone => absurd gone popped, invariant.keeps, invariant.lives, fun _ _ _ _ => rfl⟩

/-- A confirmed save stays so when another one is settled. -/
theorem confirmed_of_settled {attempts : List Attempt} {index : Nat} {reminder : ReminderModel}
    (asked : attempts[index]? = some ⟨reminder, .asked⟩) (fate : Fate)
    (confirmed : ∃ attempt ∈ attempts, attempt.fate = .confirmed) :
    ∃ attempt ∈ attempts.set index ⟨reminder, fate⟩, attempt.fate = .confirmed := by
  obtain ⟨attempt, member, confirmed⟩ := confirmed
  obtain ⟨other, at_⟩ := List.mem_iff_getElem?.1 member
  have apart : index ≠ other := by
    rintro rfl
    cases asked.symm.trans at_
    cases confirmed
  exact ⟨attempt, List.mem_of_getElem? ((List.getElem?_set_ne apart).trans at_), confirmed⟩

/-- **The answer to a save on the Edit screen.** -/
theorem editInvariant_answered {form form' : Form Edit.Screen} {index : Nat}
    {reminder : ReminderModel} (invariant : EditInvariant parse form)
    (asked : form.attempts[index]? = some ⟨reminder, .asked⟩) (error : Option NSError)
    {inWindow : Bool}
    (answered : (editClient parse).answered index reminder error inWindow
      (form.settle index reminder error) = some form') :
    EditInvariant parse form' := by
  have confirmed_ := confirmed_of_settled asked
    (if error.isSome then .failed else .confirmed)
  have inRange := (List.getElem?_eq_some_iff.1 asked).1
  simp only [editClient] at answered
  split at answered
  · rename_i screen request updated
    obtain ⟨same, warned⟩ := reminderUpdated_screen parse updated
    have keeps : (editClient parse).entered screen = form.entered := by
      rcases same with rfl | ⟨text, rfl⟩
      · exact invariant.keeps
      · exact invariant.keeps
    cases error with
    | some error =>
        cases answered
        exact ⟨fun gone => confirmed_ (invariant.stays gone), keeps, invariant.lives,
          fun _ _ _ _ => warned rfl⟩
    | none =>
        cases answered
        have here := List.mem_of_getElem?
          (List.getElem?_set_self (a := (⟨reminder, .confirmed⟩ : Attempt)) inRange)
        have warns : form.alive = true →
            ∀ attempt ∈ form.attempts.set index ⟨reminder, .confirmed⟩,
              attempt.fate = .failed → screen.warningLabel.isHidden = false := by
          intro alive attempt member failed
          rcases same with rfl | ⟨text, rfl⟩
          · rcases List.mem_or_eq_of_mem_set member with old | rfl
            · exact invariant.warns alive attempt old failed
            · cases failed
          · rfl
        have settled : EditInvariant parse { form with
            screen, attempts := form.attempts.set index ⟨reminder, .confirmed⟩ } :=
          ⟨fun _ => ⟨_, here, rfl⟩, keeps, invariant.lives, warns⟩
        exact settled.pop ⟨_, here, rfl⟩
  · cases answered

theorem editInvariant_step {form form' : Form Edit.Screen} {event : Event}
    (invariant : EditInvariant parse form)
    (moved : step (editClient parse) form event = some form') :
    EditInvariant parse form' := by
  cases effect_of_step moved with
  | entered here entered =>
      refine ⟨fun popped => ?_, rfl, invariant.lives, invariant.warns⟩
      rw [here] at popped
      cases popped
  | saved here currentUser => exact editInvariant_save currentUser invariant here
  | answered asked heard => exact editInvariant_answered invariant asked _ heard
  | unheard asked gone =>
      exact ⟨fun popped => confirmed_of_settled asked _ (invariant.stays popped),
        invariant.keeps, invariant.lives, fun alive => absurd alive gone⟩
  | left =>
      refine ⟨fun popped => ?_, invariant.keeps, fun here => ?_, invariant.warns⟩
      · cases popped
      · cases here
  | released away =>
      refine ⟨invariant.stays, invariant.keeps, fun here => absurd here away, fun alive => ?_⟩
      cases alive

/-- A reminder as the list hands it out. -/
def listedMilk : ReminderModel := { title := some "Milk", documentID := some "d1" }

/-- A new title, which the server does not take. -/
def renameFailed : Form Edit.Screen :=
  let form := opened (editClient fun _ => none) (Edit.viewDidLoad (some listedMilk))
  ((machine (editClient fun _ => none) (· = Edit.viewDidLoad (some listedMilk))).run form
    [.enter ⟨"Bread", "", none⟩, .save none, .answer 0 (some Store.notFound) true]).getD form

end Edit

/-! ## Both screens -/

/-- **When saves are reported truthfully and failed input is kept.**  On either screen,
in every run, it holds throughout if and only if every Save is refused at the title
check, or has no reminder to save. -/
theorem throughout_truthful_iff (parse : String → Option Nat) (reminder : Option ReminderModel)
    (es : List Event) :
    ((machine addClient (· = {})).Throughout (Truthful addClient) (opened addClient {}) es ↔
        (machine addClient (· = {})).RunOk (Refused addRefuses) (opened addClient {}) es) ∧
      ((machine (editClient parse) (· = Edit.viewDidLoad reminder)).Throughout
          (Truthful (editClient parse))
          (opened (editClient parse) (Edit.viewDidLoad reminder)) es ↔
        (machine (editClient parse) (· = Edit.viewDidLoad reminder)).RunOk (Refused editRefuses)
          (opened (editClient parse) (Edit.viewDidLoad reminder)) es) :=
  ⟨addClient_lawful.throughout_iff _ _ es, (editClient_lawful parse).throughout_iff _ _ es⟩

/-- Nobody is signed in: no answer ever comes, and the screen is gone. -/
theorem addWithoutUser_lost :
    ¬ ∀ form : Form Add.Screen, (machine addClient (· = {})).Reachable form →
      Truthful addClient form := by
  intro always
  have ran : (machine addClient (· = {})).run (opened addClient {})
      [.enter ⟨"Milk", "", none⟩, .save none] = some _ := rfl
  have truthful := always _ (Machine.reachable_of_run ⟨_, rfl, rfl⟩ ran)
  exact truthful.stays _ (List.mem_singleton_self _) (by decide) rfl

end Remindify.Saving
