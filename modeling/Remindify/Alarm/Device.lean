/-
# Alarm.Device -- one device, the store, and its notification centre

What the screens of one device do to the collection `reminders` and to the pending
alarms, with everything asynchronous in between:

* a save or a swipe-delete makes a call (`writes`); Firestore processes the calls in
  any order, and answers in the order in which it processed them (`answers`);
* the answer to an update reaches its Edit screen only while that controller lives;
* requests go through the calls of the notification centre;
* other devices update and delete documents, users log out and in, and a snapshot
  is due to every listener after each change of the store.

The Edit screens are opened on reminders the Home screen lists.
-/
import Remindify.Theory.Machine
import Remindify.Network.Authentication
import Remindify.Add.Screen
import Remindify.Edit.Screen

namespace Remindify.Alarm

open Remindify.Theory
open Remindify.Network

set_option autoImplicit false

/-- An Edit screen, and whether its controller is still alive. -/
structure Editor where
  screen : Edit.Screen
  alive : Bool

/-- A call of the service under way. -/
inductive Write where
  | add (reminder : ReminderModel) (data : Fields)
  | update (editor : Nat) (reminder : ReminderModel) (documentID : DocumentID) (data : Fields)
  | delete (documentID : DocumentID)

/-- The document a call is about; an added one has its ID only from Firestore. -/
def Write.documentID : Write → Option DocumentID
  | .add _ _ => none
  | .update _ _ documentID _ => some documentID
  | .delete documentID => some documentID

/-- A processed call whose completion has not run. -/
structure Answer where
  write : Write
  documentID : DocumentID
  error : Option NSError

structure Device where
  store : Store
  session : Option User
  now : Nat
  /-- the owners listeners were registered for -/
  listeners : List String
  /-- the owners whose listeners have a snapshot due -/
  due : List String
  /-- `filteredRemindersArr` of the Home screen -/
  listed : List ReminderModel
  editors : List Editor
  writes : List Write
  /-- oldest first -/
  answers : List Answer
  center : NotificationCenter
  /-- the documents the Add and Edit screens wrote successfully -/
  written : List DocumentID

/-- The identifier of a document's alarm. -/
def alarm (documentID : DocumentID) : String := "Reminder_" ++ documentID

namespace Device

/-- The store changes, and every listener hears of it. -/
def setStore (device : Device) (store : Store) : Device :=
  { device with store, due := device.listeners }

/-- `viewDidLoad` of a Home screen, or a reload after a deletion: a listener for the
current user. -/
def loadReminders (device : Device) : Device :=
  let registered := (FirebaseService.loadReminders device.session).toList
  { device with
    listeners := device.listeners ++ registered, due := device.due ++ registered }

/-! ## Calls of the screens -/

def addReminder (device : Device) (screen : Add.Screen) : Device :=
  match (Add.saveButtonTapped screen).2 with
  | some reminder =>
      match FirebaseService.addReminder device.session reminder with
      | some data => { device with writes := device.writes ++ [.add reminder data] }
      | none => device
  | none => device

/-- `saveButtonTapped` of Edit screen `index`. -/
def saveEditor (device : Device) (index : Nat) (editor : Editor) : Device :=
  match Edit.saveButtonTapped editor.screen with
  | (screen, some reminder) =>
      let editors := device.editors.set index { editor with screen }
      match FirebaseService.updateReminder reminder with
      | .ok (documentID, data) =>
          { device with
            editors, writes := device.writes ++ [.update index reminder documentID data] }
      | .error _ =>
          let screen := screen.warn "Error updating document"
          { device with editors := device.editors.set index { editor with screen } }
  | (screen, none) =>
      { device with editors := device.editors.set index { editor with screen } }

/-- The delete action of row `row`. -/
def swipeDelete (device : Device) (row : Nat) : Option Device :=
  match device.listed[row]? with
  | some reminder =>
      match reminder.ownerId, reminder.documentID with
      | some _, some documentID =>
          let asked := Write.delete (FirebaseService.deleteReminder documentID)
          some { device with
            listed := device.listed.eraseIdx row, writes := device.writes ++ [asked] }
      | _, _ => some device
  | none => none

/-! ## Firestore -/

/-- Firestore processes a call: it is applied, under a new ID for an added document,
or refused with `refused`. -/
def process (device : Device) (write : Write) (newID : DocumentID) (refused : Option NSError) :
    Option Device :=
  let answered (documentID : DocumentID) (error : Option NSError) (device : Device) : Device :=
    { device with answers := device.answers ++ [⟨write, documentID, error⟩] }
  match write, refused with
  | .add _ data, none =>
      (device.store.addDocument newID data).map fun store =>
        answered newID none
          { device.setStore store with written := newID :: device.written }
  | .add _ _, some error => some (answered newID (some error) device)
  | .update _ _ documentID data, none =>
      match device.store.updateData documentID data with
      | .ok store =>
          some (answered documentID none
            { device.setStore store with written := documentID :: device.written })
      | .error error => some (answered documentID (some error) device)
  | .update _ _ documentID _, some error => some (answered documentID (some error) device)
  | .delete documentID, none =>
      some (answered documentID none (device.setStore (device.store.delete documentID)))
  | .delete documentID, some error => some (answered documentID (some error) device)

/-! ## Completions -/

/-- The completion of an update: on a live controller, the alarm is scheduled. -/
def reminderUpdated (parse : String → Option Nat) (device : Device) (index : Nat)
    (reminder : ReminderModel) (error : Option NSError) : Except Trap Device :=
  match device.editors[index]? with
  | some ⟨screen, true⟩ =>
      match Edit.reminderUpdated parse screen reminder error with
      | .ok (screen, request) =>
          let center :=
            match request with
            | some request => device.center.call (.add request)
            | none => device.center
          .ok { device with editors := device.editors.set index ⟨screen, true⟩, center }
      | .error trap => .error trap
  | _ => .ok device

/-- The completion of a deletion: the alarm is removed and the reminders are loaded
again. -/
def reminderDeleted (device : Device) (documentID : DocumentID) : Option NSError → Device
  | some _ => device
  | none =>
      let center :=
        device.center.call (.removePendingNotificationRequests [alarm documentID])
      { device with center }.loadReminders

/-- The oldest answer runs its completion; the one of an addition shows an alert. -/
def complete (parse : String → Option Nat) (device : Device) (answer : Answer) :
    Except Trap Device :=
  match answer.write with
  | .add _ _ => .ok device
  | .update index reminder _ _ => reminderUpdated parse device index reminder answer.error
  | .delete documentID => .ok (reminderDeleted device documentID answer.error)

end Device

/-! ## The machine -/

inductive Event where
  /-- Save on an Add screen with these contents -/
  | addReminder (screen : Add.Screen)
  /-- a row of the Home screen is opened in an Edit screen -/
  | didSelectRow (row : Nat)
  | typeTitle (editor : Nat) (text : String)
  | typeDescription (editor : Nat) (text : String)
  | pickDate (editor : Nat) (date : String)
  | saveEditor (editor : Nat)
  /-- the controller is popped and released -/
  | leaveEditor (editor : Nat)
  | swipeDelete (row : Nat)
  /-- Firestore processes call `write` -/
  | process (write : Nat) (newID : DocumentID) (refused : Option NSError)
  /-- the oldest answer arrives -/
  | answer
  /-- a snapshot reaches the listener of `ownerId` -/
  | snapshot (ownerId : String)
  /-- the notification centre works off a call -/
  | work
  | tick
  /-- another device updates a document -/
  | remoteUpdate (reminder : ReminderModel)
  /-- another device deletes a document -/
  | remoteDelete (documentID : DocumentID)
  | signIn (user : User)
  | signOut

namespace Device

/-- A live Edit screen changes. -/
def edit (device : Device) (index : Nat) (change : Edit.Screen → Edit.Screen) : Option Device :=
  match device.editors[index]? with
  | some ⟨screen, true⟩ =>
      some { device with editors := device.editors.set index ⟨change screen, true⟩ }
  | _ => none

end Device

def step (parse : String → Option Nat) (device : Device) : Event → Option Device
  | .addReminder screen => some (device.addReminder screen)
  | .didSelectRow row =>
      match device.listed[row]? with
      | some reminder =>
          some { device with
            editors := device.editors ++ [⟨Edit.viewDidLoad (some reminder), true⟩] }
      | none => none
  | .typeTitle index text => device.edit index fun screen => { screen with titleView := text }
  | .typeDescription index text =>
      device.edit index fun screen => { screen with descriptionTextView := text }
  | .pickDate index date =>
      device.edit index fun screen => { screen with dateString := some date }
  | .saveEditor index =>
      match device.editors[index]? with
      | some ⟨screen, true⟩ => some (device.saveEditor index ⟨screen, true⟩)
      | _ => none
  | .leaveEditor index =>
      match device.editors[index]? with
      | some editor =>
          some { device with editors := device.editors.set index { editor with alive := false } }
      | none => none
  | .swipeDelete row => device.swipeDelete row
  | .process index newID refused =>
      match device.writes[index]? with
      | some write =>
          { device with writes := device.writes.eraseIdx index }.process write newID refused
      | none => none
  | .answer =>
      match device.answers with
      | answer :: answers => ({ device with answers }.complete parse answer).toOption
      | [] => none
  | .snapshot ownerId =>
      if ownerId ∈ device.due then
        match FirebaseService.loadRemindersListener ownerId none
            (some (device.store.snapshot ownerId)) with
        | .ok (.ok reminders) =>
            some { device with listed := reminders, due := device.due.erase ownerId }
        | _ => none
      else none
  | .work => device.center.work.map fun center => { device with center }
  | .tick => some { device with now := device.now + 1 }
  | .remoteUpdate reminder =>
      match FirebaseService.updateReminder reminder with
      | .ok (documentID, data) =>
          match device.store.updateData documentID data with
          | .ok store => some (device.setStore store)
          | .error _ => none
      | .error _ => none
  | .remoteDelete documentID => some (device.setStore (device.store.delete documentID))
  | .signIn user => some { device with session := some user }.loadReminders
  | .signOut => some { device with session := none }

/-! ## What is asked of the alarms -/

namespace Device

/-- The minute the stored date of a live document parses to. -/
def storedTrigger (parse : String → Option Nat) (device : Device) (documentID : DocumentID) :
    Option Nat :=
  (((device.store.lookup documentID).bind fun data => data.lookup "Date").bind
    Value.asString).bind parse

/-- A call about the document is under way, or its answer is. -/
def Busy (device : Device) (documentID : DocumentID) : Prop :=
  (∃ write ∈ device.writes, write.documentID = some documentID) ∨
    ∃ answer ∈ device.answers, answer.documentID = documentID

/-- No call to Firestore is outstanding, no answer, and no call to the notification
centre. -/
structure Idle (device : Device) : Prop where
  writes : device.writes = []
  answers : device.answers = []
  calls : device.center.calls = []

/-- Nothing is outstanding, and no snapshot is due. -/
structure Quiescent (device : Device) : Prop extends Idle device where
  snapshots : device.due = []

end Device

/-- The app at launch. -/
def launch (store : Store) (session : Option User) (now : Nat) : Device :=
  let device : Device :=
    { store, session, now, listeners := [], due := [], listed := [], editors := [], writes := []
      answers := [], center := .empty, written := [] }
  device.loadReminders

/-- A device launched with no alarms pending, over any collection. -/
def machine (parse : String → Option Nat) : Machine Device Event where
  init device := ∃ store session now, device = launch store session now
  step := step parse

/-! ## Dates -/

def number (digits : List Char) : Option Nat :=
  if digits.all Char.isDigit then some (digits.foldl (fun n c => 10 * n + (c.toNat - 48)) 0)
  else none

/-- `date(from:)` on text of the shape `HH:mm dd/MM/yyyy`, in minutes of a calendar
with months of 31 days, which keeps the order of dates. -/
def wallClock (text : String) : Option Nat :=
  match text.toList with
  | [h1, h2, c1, m1, m2, c2, d1, d2, c3, o1, o2, c4, y1, y2, y3, y4] =>
      if [c1, c2, c3, c4] = [':', ' ', '/', '/'] then
        match number [h1, h2], number [m1, m2], number [d1, d2], number [o1, o2],
          number [y1, y2, y3, y4] with
        | some hour, some minute, some day, some month, some year =>
            if hour < 24 ∧ minute < 60 ∧ day ∈ List.range' 1 31 ∧ month ∈ List.range' 1 12 then
              some ((((year * 12 + (month - 1)) * 31 + (day - 1)) * 24 + hour) * 60 + minute)
            else none
        | _, _, _, _, _ => none
      else none
  | _ => none

/-! ## A run -/

def later : String := "09:00 01/02/2030"

/-- Ann has one reminder, without a date. -/
def oneReminder : Store :=
  (∅ : Store).insert "d1" (FirebaseService.reminderData "ann" { title := some "Milk" })

def annAtLaunch : Device := launch oneReminder (some ⟨"ann", none⟩) 0

/-- Ann opens it, picks a date, saves, and waits. -/
def editAndWait : List Event :=
  [.snapshot "ann", .didSelectRow 0, .pickDate 0 later, .saveEditor 0, .process 0 "" none, .answer,
    .work, .snapshot "ann"]

end Remindify.Alarm
