/-
# Edit.Screen -- editing one reminder

`EditReminderViewController.swift`.  The screen is given a copy of a reminder and
keeps it: a later snapshot does not reach it.  Saving writes the copy back with the
texts of the two views and the date picked last, if one was picked.  The answer
schedules the alarm, unless the controller is gone by then (`weak self`), in which
case its caller does not get here.

The date formatter is a parameter: `parse` is `date(from:)` with the format
`HH:mm dd/MM/yyyy`, in minutes.
-/
import Remindify.Network.FirebaseService
import Remindify.Alarm.Notification

namespace Remindify.Edit

open Remindify.Network
open Remindify.Alarm

set_option autoImplicit false

structure WarningLabel where
  isHidden : Bool
  text : String
  deriving DecidableEq, Repr

structure Screen where
  /-- the copy it was given -/
  reminder : Option ReminderModel
  titleView : String
  descriptionTextView : String
  /-- the date picked last, formatted -/
  dateString : Option String
  warningLabel : WarningLabel
  deriving DecidableEq, Repr

def Screen.warn (screen : Screen) (text : String) : Screen :=
  { screen with warningLabel := { isHidden := false, text } }

/-! ## Opening -/

/-- The texts `setupUI` gives the views. -/
def setupUI (reminder : Option ReminderModel) : Screen :=
  { reminder, titleView := "Title", descriptionTextView := "Description", dateString := none
    warningLabel := { isHidden := true, text := "Warning" } }

/-- `loadReminder`; a text view shows no text for `nil`. -/
def loadReminder (screen : Screen) : Screen :=
  match screen.reminder with
  | some reminder =>
      { screen with
        titleView := reminder.title.getD ""
        descriptionTextView := reminder.description.getD "" }
  | none => screen

def viewDidLoad (reminder : Option ReminderModel) : Screen := loadReminder (setupUI reminder)

/-! ## Saving -/

/-- `saveButtonTapped`: the reminder handed to `updateReminderInFirestore`, if any. -/
def saveButtonTapped (screen : Screen) : Screen × Option ReminderModel :=
  match screen.reminder with
  | some myreminder =>
      let reminder :=
        { myreminder with
          title := some screen.titleView
          description := some screen.descriptionTextView
          date := screen.dateString.or myreminder.date }
      if reminder.title = some "" then (screen.warn "Title can't be empty", none)
      else (screen, some reminder)
  | none => (screen, none)

/-- `scheduleAlarmNotification`: the request it adds.  It unwraps `reminder`. -/
def scheduleAlarmNotification (parse : String → Option Nat) (screen : Screen) (date : String) :
    Except Trap (Screen × Option NotificationRequest) :=
  match parse date with
  | some trigger =>
      match screen.reminder with
      | some reminder =>
          match reminder.documentID with
          | some documentID =>
              .ok (screen, some { identifier := "Reminder_" ++ documentID, trigger })
          | none =>
              .ok (screen.warn "Error updating alarm",
                some { identifier := "alarmNotification", trigger })
      | none => .error .forcedUnwrap
  | none => .ok (screen.warn "Failed", none)

/-- The completion `updateReminderInFirestore` passes to the service, on a live
controller: the request it adds, if any.  After a success the controller pops. -/
def reminderUpdated (parse : String → Option Nat) (screen : Screen) (reminder : ReminderModel) :
    Option NSError → Except Trap (Screen × Option NotificationRequest)
  | some _ => .ok (screen.warn "Error updating document", none)
  | none =>
      match reminder.date with
      | some date => scheduleAlarmNotification parse screen date
      | none => .ok (screen, none)

/-! ## What is saved -/

/-- **What a save writes**: the copy, with the texts and the date of the screen. -/
theorem saveButtonTapped_eq_some {screen screen' : Screen} {reminder : ReminderModel}
    (saved : saveButtonTapped screen = (screen', some reminder)) :
    ∃ copy, screen.reminder = some copy ∧ screen' = screen ∧
      reminder = { copy with
        title := some screen.titleView
        description := some screen.descriptionTextView
        date := screen.dateString.or copy.date } := by
  unfold saveButtonTapped at saved
  split at saved
  · rename_i copy given
    dsimp only at saved
    split at saved
    · cases saved
    · cases saved
      exact ⟨copy, given, rfl, rfl⟩
  · cases saved

theorem saveButtonTapped_snd {screen : Screen} {copy : ReminderModel}
    (given : screen.reminder = some copy) :
    (saveButtonTapped screen).2 =
      if screen.titleView = "" then none
      else some
        { copy with
          title := some screen.titleView
          description := some screen.descriptionTextView
          date := screen.dateString.or copy.date } := by
  simp only [saveButtonTapped, given, Option.some.injEq]
  split <;> rfl

/-- The copy is never replaced. -/
theorem saveButtonTapped_reminder (screen : Screen) :
    (saveButtonTapped screen).1.reminder = screen.reminder := by
  unfold saveButtonTapped
  split
  · dsimp only
    split <;> rfl
  · rfl

@[simp] theorem viewDidLoad_reminder (reminder : Option ReminderModel) :
    (viewDidLoad reminder).reminder = reminder := by
  cases reminder <;> rfl

/-- A screen opened on a listed reminder asks for its document's alarm, when the save
succeeded and its date parses. -/
theorem reminderUpdated_of_documentID (parse : String → Option Nat) {screen : Screen}
    {copy : ReminderModel} {documentID : DocumentID} (given : screen.reminder = some copy)
    (id : copy.documentID = some documentID) (reminder : ReminderModel) (error : Option NSError) :
    ∃ screen', screen'.reminder = screen.reminder ∧
      reminderUpdated parse screen reminder error = .ok (screen',
        if error.isSome then none
        else (reminder.date.bind parse).map fun trigger =>
          { identifier := "Reminder_" ++ documentID, trigger }) := by
  cases error with
  | some error => exact ⟨screen.warn "Error updating document", rfl, rfl⟩
  | none =>
      unfold reminderUpdated
      cases dated : reminder.date with
      | none => exact ⟨screen, rfl, rfl⟩
      | some date =>
          simp only [scheduleAlarmNotification, given, id, Option.bind_some]
          cases parsed : parse date with
          | none => exact ⟨screen.warn "Failed", given, rfl⟩
          | some trigger => exact ⟨screen, given, rfl⟩

end Remindify.Edit
