/-
# Add.Screen -- adding a reminder

`AddReminderViewController.swift`.  Save hands a model to the service and pops; the
completion only shows an alert.  The controller has a `scheduleAlarmNotification` of
its own, which nothing calls and which works on `reminder`, a fresh model that is
never assigned: it has no document ID, so it would add no request
(`scheduleAlarmNotification_fresh`).
-/
import Remindify.Network.FirebaseService
import Remindify.Alarm.Notification

namespace Remindify.Add

open Remindify.Network
open Remindify.Alarm

set_option autoImplicit false

structure WarningLabel where
  isHidden : Bool
  text : String
  deriving DecidableEq, Repr

structure Screen where
  /-- the property `reminder`, not the one that is saved -/
  reminder : ReminderModel := {}
  titleView : String := ""
  descriptionTextView : String := ""
  /-- the date selected last, formatted -/
  selectedDate : Option String := none
  warningLabel : WarningLabel := { isHidden := true, text := "Warning" }
  deriving DecidableEq, Repr

/-- `saveButtonTapped`: the model handed to `addReminder`, if any. -/
def saveButtonTapped (screen : Screen) : Screen × Option ReminderModel :=
  if screen.titleView.isEmpty then
    ({ screen with warningLabel := { isHidden := false, text := "Title can't be empty" } }, none)
  else
    (screen, some
      { title := some screen.titleView
        description := some screen.descriptionTextView
        date := screen.selectedDate })

/-- `scheduleAlarmNotification`: the request it would add. -/
def scheduleAlarmNotification (parse : String → Option Nat) (screen : Screen) (date : String) :
    Option NotificationRequest :=
  match screen.reminder.documentID with
  | some documentID =>
      (parse date).map fun trigger => { identifier := "Reminder_" ++ documentID, trigger }
  | none => none

/-- **What a save hands to the service.** -/
theorem saveButtonTapped_snd (screen : Screen) :
    (saveButtonTapped screen).2 =
      if screen.titleView.isEmpty then none
      else some
        { title := some screen.titleView
          description := some screen.descriptionTextView
          date := screen.selectedDate } := by
  unfold saveButtonTapped
  split <;> rfl

/-- The handlers never give `reminder` a document ID. -/
theorem saveButtonTapped_reminder (screen : Screen) :
    (saveButtonTapped screen).1.reminder = screen.reminder := by
  unfold saveButtonTapped
  split <;> rfl

/-- **The Add screen could not schedule an alarm**, whatever the date. -/
theorem scheduleAlarmNotification_fresh (parse : String → Option Nat) {screen : Screen}
    (fresh : screen.reminder = {}) (date : String) :
    scheduleAlarmNotification parse (saveButtonTapped screen).1 date = none := by
  rw [scheduleAlarmNotification, saveButtonTapped_reminder, fresh]

end Remindify.Add
