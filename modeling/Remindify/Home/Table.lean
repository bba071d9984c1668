/-
# Home.Table -- the Home screen: its arrays, its search bar, its table view

`HomeReminderTableViewController.swift`.  The screen keeps two copies of the
delivered reminders (`originalRemindersArr`, and `filteredRemindersArr` which the
table shows) and one flag per row (`isCellExpandedArr`); UIKit keeps the row count
it last recorded and the cells on screen.  A cell remembers the row it was
configured for: `doubleTapAction` captures that index path, and `deleteRows` moves
a cell without configuring it again.

The two string functions of the search are parameters (`TextOps`): nothing here
depends on how lower-casing or containment work.  `=` on strings stands for Swift's `==`,
canonical equivalence.

Each handler is a function of its own under its source name; `step` says when each
can run.  A handler that traps ends the program, so the machine has no step there.
-/
import Remindify.Theory.Machine
import Remindify.Network.FirebaseService

namespace Remindify.Home

open Remindify.Theory
open Remindify.Network

set_option autoImplicit false

/-- `lowercased()` and `contains(_:)`. -/
structure TextOps where
  lowercased : String → String
  contains : String → String → Bool

/-- A cell on screen. -/
structure Cell where
  /-- where the table shows it now -/
  row : Nat
  /-- the index path its `doubleTapAction` captured -/
  boundRow : Nat
  reminder : ReminderModel
  isExpanded : Bool
  deriving DecidableEq, Repr

/-- A call of `deleteReminder`, and its answer once it has one. -/
structure Deletion where
  documentID : DocumentID
  reply : Option (Option NSError)
  deriving DecidableEq, Repr

/-- The deletion has been reported as failed. -/
def Deletion.failed (deletion : Deletion) : Bool :=
  match deletion.reply with
  | some (some _) => true
  | _ => false

structure Screen where
  filteredRemindersArr : List ReminderModel
  originalRemindersArr : List ReminderModel
  isCellExpandedArr : List Bool
  searchText : String
  /-- the row count `UITableView` recorded last -/
  recordedRows : Nat
  cells : List Cell
  deletions : List Deletion
  /-- the owner each listener of this screen was registered for -/
  listeners : List String
  /-- the listeners Firestore has erased -/
  erased : List Nat
  deriving DecidableEq, Repr

/-- The owners of the listeners that are registered and not erased. -/
def Screen.liveListeners (screen : Screen) : List String :=
  (screen.listeners.zipIdx.filter fun listener => listener.2 ∉ screen.erased).map (·.1)

/-! ## UIKit -/

/-- `reloadData`: the rows are counted again and every cell is dequeued anew. -/
def reloadData (screen : Screen) : Screen :=
  { screen with recordedRows := screen.filteredRemindersArr.length, cells := [] }

def numberOfRowsInSection (screen : Screen) : Nat :=
  screen.filteredRemindersArr.length

def cellForRowAt (screen : Screen) (row : Nat) : Except Trap Cell :=
  match screen.filteredRemindersArr[row]? with
  | some reminder =>
      match screen.isCellExpandedArr[row]? with
      | some isExpanded => .ok { row, boundRow := row, reminder, isExpanded }
      | none => .error .indexOutOfRange
  | none => .error .indexOutOfRange

/-- `reloadRows(at: [row])`: a row past the recorded count is an exception; a cell
shown there is configured again. -/
def reloadRows (screen : Screen) (row : Nat) : Except Trap Screen :=
  if row < screen.recordedRows then
    if screen.cells.any (·.row == row) then
      match cellForRowAt screen row with
      | .ok cell =>
          let cells := screen.cells.map fun c => if c.row = row then cell else c
          .ok { screen with cells }
      | .error trap => .error trap
    else .ok screen
  else .error .invalidUpdate

/-- A cell below the deleted row moves up one, as it is. -/
def Cell.closeGap (deleted : Nat) (cell : Cell) : Cell :=
  if deleted < cell.row then { cell with row := cell.row - 1 } else cell

/-- `deleteRows(at: [row])`: the data source must have one row less than recorded. -/
def deleteRows (screen : Screen) (row : Nat) : Except Trap Screen :=
  if screen.filteredRemindersArr.length + 1 = screen.recordedRows then
    let cells := (screen.cells.filter (·.row ≠ row)).map (Cell.closeGap row)
    .ok { screen with recordedRows := screen.filteredRemindersArr.length, cells }
  else .error .invalidUpdate

/-! ## The handlers -/

/-- The screen after `viewDidLoad`: no reminders, ten collapsed rows, and a
listener if somebody is signed in. -/
def viewDidLoad (currentUser : Option User) : Screen :=
  { filteredRemindersArr := [], originalRemindersArr := []
    isCellExpandedArr := List.replicate 10 false
    searchText := "", recordedRows := 0, cells := [], deletions := []
    listeners := (FirebaseService.loadReminders currentUser).toList, erased := [] }

/-- The completion `loadReminders` passes to the service. -/
def remindersLoaded (screen : Screen) : Except NSError (List ReminderModel) → Screen
  | .ok reminders =>
      reloadData
        { screen with filteredRemindersArr := reminders, originalRemindersArr := reminders }
  | .error _ => screen

/-- The snapshot listener of `FirebaseService.loadReminders`, on this screen. -/
def snapshotDelivered (screen : Screen) (ownerId : String) (error : Option NSError)
    (querySnapshot : Option Snapshot) : Except Trap Screen :=
  match FirebaseService.loadRemindersListener ownerId error querySnapshot with
  | .ok result => .ok (remindersLoaded screen result)
  | .error trap => .error trap

/-- `reminder.title?.lowercased().contains(searchTextLowercased) ?? false`. -/
def titleContains (ops : TextOps) (searchText : String) (reminder : ReminderModel) : Bool :=
  (reminder.title.map fun title =>
    ops.contains (ops.lowercased title) (ops.lowercased searchText)).getD false

/-- `searchBar(_:textDidChange:)`. -/
def textDidChange (ops : TextOps) (screen : Screen) (searchText : String) : Screen :=
  let screen := { screen with searchText }
  if searchText.isEmpty then
    reloadData { screen with filteredRemindersArr := screen.originalRemindersArr }
  else
    let filteredRemindersArr := screen.originalRemindersArr.filter (titleContains ops searchText)
    reloadData { screen with filteredRemindersArr }

/-- `searchBarCancelButtonClicked`: the text is cleared, the list is not. -/
def searchBarCancelButtonClicked (screen : Screen) : Screen :=
  { screen with searchText := "" }

/-- The handler of the swipe's delete action. -/
def deleteHandler (screen : Screen) (row : Nat) : Except Trap Screen :=
  match screen.filteredRemindersArr[row]? with
  | none => .error .indexOutOfRange
  | some reminderToDelete =>
      match reminderToDelete.ownerId, reminderToDelete.documentID with
      | some _, some documentId =>
          let found := screen.filteredRemindersArr.findIdx? fun r => r.documentID = some documentId
          match found with
          | some indexToDelete =>
              let filteredRemindersArr := screen.filteredRemindersArr.eraseIdx indexToDelete
              let asked : Deletion := ⟨FirebaseService.deleteReminder documentId, none⟩
              .ok { screen with filteredRemindersArr, deletions := screen.deletions ++ [asked] }
          | none => .ok screen
      | _, _ => .ok screen

/-- SwipeCellKit's destructive expansion: the handler, then `deleteRows`. -/
def performFillAction (screen : Screen) (row : Nat) : Except Trap Screen :=
  match deleteHandler screen row with
  | .ok screen => deleteRows screen row
  | .error trap => .error trap

/-- The completion of `deleteReminder`: a success loads the reminders again. -/
def deletionAnswered (screen : Screen) (call : Nat) (deletion : Deletion) (error : Option NSError)
    (currentUser : Option User) : Screen :=
  let screen :=
    { screen with deletions := screen.deletions.set call { deletion with reply := some error } }
  match error with
  | some _ => screen
  | none =>
      let listeners := screen.listeners ++ (FirebaseService.loadReminders currentUser).toList
      { screen with listeners }

/-- The closure `cellForRowAt` gives a cell. -/
def doubleTapAction (screen : Screen) (boundRow : Nat) : Except Trap Screen :=
  match screen.isCellExpandedArr[boundRow]? with
  | some expanded =>
      let isCellExpandedArr := screen.isCellExpandedArr.set boundRow (!expanded)
      reloadRows { screen with isCellExpandedArr } boundRow
  | none => .error .indexOutOfRange

/-! ## The machine -/

inductive Event where
  /-- listener `listener` of this screen is called -/
  | snapshot (listener : Nat) (error : Option NSError) (querySnapshot : Option Snapshot)
  | textDidChange (searchText : String)
  | cancel
  | swipeDelete (row : Nat)
  /-- the answer to deletion `call`, with whoever is signed in then -/
  | deletionAnswered (call : Nat) (error : Option NSError) (currentUser : Option User)
  | viewWillAppear
  /-- the table lays out a cell for `row` -/
  | layout (row : Nat)
  | endDisplaying (row : Nat)
  /-- one action of the long-press recognizer of the cell shown at `row` -/
  | longPress (row : Nat)

/-- Firestore erases a listener with the error it gives it (`EventManager::OnError`). -/
def eraseFailed (screen : Screen) (listener : Nat) : Option NSError → Screen
  | some _ => { screen with erased := listener :: screen.erased }
  | none => screen

def step (ops : TextOps) (screen : Screen) : Event → Option Screen
  | .snapshot listener error querySnapshot =>
      match screen.listeners[listener]? with
      | some ownerId =>
          if listener ∈ screen.erased then none
          else
            (snapshotDelivered screen ownerId error querySnapshot).toOption.map fun screen =>
              eraseFailed screen listener error
      | none => none
  | .textDidChange searchText => some (textDidChange ops screen searchText)
  | .cancel => some (searchBarCancelButtonClicked screen)
  | .swipeDelete row =>
      if row < screen.recordedRows then (performFillAction screen row).toOption else none
  | .deletionAnswered call error currentUser =>
      match screen.deletions[call]? with
      | some ⟨documentID, none⟩ =>
          some (deletionAnswered screen call ⟨documentID, none⟩ error currentUser)
      | _ => none
  | .viewWillAppear => some (reloadData screen)
  | .layout row =>
      if row < screen.recordedRows ∧ ¬ screen.cells.any (·.row == row) then
        match cellForRowAt screen row with
        | .ok cell => some { screen with cells := screen.cells ++ [cell] }
        | .error _ => none
      else none
  | .endDisplaying row => some { screen with cells := screen.cells.filter (·.row ≠ row) }
  | .longPress row =>
      match screen.cells.find? (·.row == row) with
      | some cell => (doubleTapAction screen cell.boundRow).toOption
      | none => none

/-- The Home screen, from `viewDidLoad` on. -/
def machine (ops : TextOps) : Machine Screen Event where
  init screen := ∃ currentUser, screen = viewDidLoad currentUser
  step := step ops

end Remindify.Home
