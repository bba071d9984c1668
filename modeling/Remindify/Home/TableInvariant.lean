/-
# Home.TableInvariant -- the table view and its data source stay in step

`Consistent` is what every reachable state of the Home screen satisfies: the row
count UIKit recorded is the length of `filteredRemindersArr`, that array is a part
of `originalRemindersArr`, whose reminders all have an owner and pairwise distinct
document IDs, and every cell on screen shows the reminder of its row.

From it follows what a swipe does (`performFillAction_eq`): although the handler
looks the reminder up by document ID and skips the removal when a guard fails, the
guards cannot fail and the first match is the swiped row, so `deleteRows` finds
exactly one row less.
-/
import Remindify.Home.Table
import Remindify.Theory.Keyed

namespace Remindify.Home

open Remindify.Theory
open Remindify.Network

set_option autoImplicit false

/-- What every reachable state of the screen satisfies. -/
structure Consistent (screen : Screen) : Prop where
  counted : screen.recordedRows = screen.filteredRemindersArr.length
  listed : screen.filteredRemindersArr.Sublist screen.originalRemindersArr
  owned : ∀ reminder ∈ screen.originalRemindersArr,
    reminder.ownerId.isSome ∧ reminder.documentID.isSome
  distinct : (screen.originalRemindersArr.map (·.documentID)).Nodup
  placed : ∀ cell ∈ screen.cells,
    screen.filteredRemindersArr[cell.row]? = some cell.reminder

theorem consistent_viewDidLoad (currentUser : Option User) :
    Consistent (viewDidLoad currentUser) where
  counted := rfl
  listed := List.Sublist.refl _
  owned := by simp [viewDidLoad]
  distinct := List.nodup_nil
  placed := by simp [viewDidLoad]

theorem Consistent.filtered_distinct {screen : Screen} (consistent : Consistent screen) :
    (screen.filteredRemindersArr.map (·.documentID)).Nodup :=
  consistent.distinct.sublist (consistent.listed.map _)

/-- Showing another part of the delivered reminders. -/
theorem Consistent.reload {screen : Screen} (consistent : Consistent screen)
    {shown : List ReminderModel} (part : shown.Sublist screen.originalRemindersArr) :
    Consistent (reloadData { screen with filteredRemindersArr := shown }) where
  counted := rfl
  listed := part
  owned := consistent.owned
  distinct := consistent.distinct
  placed := by simp [reloadData]

/-- Showing what a listener delivered. -/
theorem Consistent.delivered {screen : Screen} {ownerId : String} {error : Option NSError}
    {querySnapshot : Option Snapshot} {reminders : List ReminderModel}
    (heard : FirebaseService.loadRemindersListener ownerId error querySnapshot =
      .ok (.ok reminders)) :
    Consistent (remindersLoaded screen (.ok reminders)) := by
  obtain ⟨owned, distinct⟩ := FirebaseService.loadRemindersListener_spec heard
  exact
    { counted := rfl
      listed := List.Sublist.refl _
      owned := fun reminder member => by
        obtain ⟨owner, -, id⟩ := owned reminder member
        exact ⟨by simp [owner], id⟩
      distinct
      placed := by simp [remindersLoaded, reloadData] }

/-- A title the search shows: all of them when the text is empty. -/
def titleMatches (ops : TextOps) (searchText : String) (reminder : ReminderModel) : Bool :=
  searchText.isEmpty || titleContains ops searchText reminder

/-- Both branches of `textDidChange` show what matches. -/
theorem textDidChange_eq (ops : TextOps) (screen : Screen) (searchText : String) :
    textDidChange ops screen searchText =
      reloadData { screen with
        searchText
        filteredRemindersArr :=
          screen.originalRemindersArr.filter (titleMatches ops searchText) } := by
  have matching : screen.originalRemindersArr.filter (titleMatches ops searchText) =
      if searchText.isEmpty then screen.originalRemindersArr
      else screen.originalRemindersArr.filter (titleContains ops searchText) := by
    split
    · rename_i empty
      exact List.filter_eq_self.2 fun _ _ => by simp only [titleMatches, empty, Bool.true_or]
    · rename_i typed
      exact List.filter_congr fun _ _ => by simp [titleMatches, typed]
  simp only [textDidChange, matching]
  split <;> rfl

/-- An answer to a deletion leaves what is shown. -/
theorem deletionAnswered_eq (screen : Screen) (call : Nat) (deletion : Deletion)
    (error : Option NSError) (currentUser : Option User) :
    ∃ listeners, deletionAnswered screen call deletion error currentUser =
      { screen with
        deletions := screen.deletions.set call { deletion with reply := some error }
        listeners } := by
  unfold deletionAnswered
  split <;> exact ⟨_, rfl⟩

/-! ## Swiping a row away -/

/-- **What the delete handler does.**  Its guards succeed, the first reminder with
the swiped document ID is the swiped one, and it alone is removed. -/
theorem deleteHandler_eq {screen : Screen} (consistent : Consistent screen) {row : Nat}
    {reminder : ReminderModel} (at_ : screen.filteredRemindersArr[row]? = some reminder) :
    ∃ ownerId documentId, reminder.ownerId = some ownerId ∧
      reminder.documentID = some documentId ∧
      (screen.filteredRemindersArr.findIdx? fun r => r.documentID = some documentId) = some row ∧
      deleteHandler screen row = .ok
        { screen with
          filteredRemindersArr := screen.filteredRemindersArr.eraseIdx row
          deletions := screen.deletions ++ [⟨documentId, none⟩] } := by
  obtain ⟨hasOwner, hasID⟩ :=
    consistent.owned reminder (consistent.listed.subset (List.mem_of_getElem? at_))
  obtain ⟨ownerId, owner⟩ := Option.isSome_iff_exists.1 hasOwner
  obtain ⟨documentId, id⟩ := Option.isSome_iff_exists.1 hasID
  have found := Keyed.findIdx?_key (·.documentID) consistent.filtered_distinct at_
  simp only [id] at found
  refine ⟨ownerId, documentId, owner, id, found, ?_⟩
  simp only [deleteHandler, at_, owner, id, found, FirebaseService.deleteReminder]

/-- The row count UIKit checks. -/
theorem Consistent.length_eraseIdx {screen : Screen} (consistent : Consistent screen) {row : Nat}
    (shown : row < screen.recordedRows) :
    (screen.filteredRemindersArr.eraseIdx row).length + 1 = screen.recordedRows := by
  rw [consistent.counted] at shown ⊢
  rw [List.length_eraseIdx_of_lt shown]
  omega

/-- `deleteRows` with one row less than recorded. -/
theorem deleteRows_eq_ok (screen : Screen) (row : Nat)
    (fewer : screen.filteredRemindersArr.length + 1 = screen.recordedRows) :
    deleteRows screen row = .ok
      { screen with
        recordedRows := screen.filteredRemindersArr.length
        cells := (screen.cells.filter (·.row ≠ row)).map (Cell.closeGap row) } := by
  simp only [deleteRows, fewer, if_true]

/-- **What a whole swipe does**: the handler, then a `deleteRows` that passes
UIKit's row-count check. -/
theorem performFillAction_eq {screen : Screen} (consistent : Consistent screen) {row : Nat}
    {reminder : ReminderModel} (at_ : screen.filteredRemindersArr[row]? = some reminder) :
    ∃ documentId, reminder.documentID = some documentId ∧
      performFillAction screen row = .ok
        { screen with
          filteredRemindersArr := screen.filteredRemindersArr.eraseIdx row
          deletions := screen.deletions ++ [⟨documentId, none⟩]
          recordedRows := (screen.filteredRemindersArr.eraseIdx row).length
          cells := (screen.cells.filter (·.row ≠ row)).map (Cell.closeGap row) } := by
  obtain ⟨-, documentId, -, id, -, handled⟩ := deleteHandler_eq consistent at_
  have shown : row < screen.recordedRows := by
    rw [consistent.counted]
    exact (List.getElem?_eq_some_iff.1 at_).1
  refine ⟨documentId, id, ?_⟩
  simp only [performFillAction, handled]
  exact deleteRows_eq_ok _ _ (consistent.length_eraseIdx shown)

/-- A cell the table keeps still shows the reminder of its row. -/
theorem placed_closeGap {shown : List ReminderModel} {row : Nat} {cell : Cell}
    (placed : shown[cell.row]? = some cell.reminder) (kept : cell.row ≠ row) :
    (shown.eraseIdx row)[(cell.closeGap row).row]? = some (cell.closeGap row).reminder := by
  unfold Cell.closeGap
  split
  · rename_i below
    have next : cell.row - 1 + 1 = cell.row := by omega
    rw [List.getElem?_eraseIdx_of_ge (by simp only; omega), next]
    exact placed
  · rename_i above
    rw [List.getElem?_eraseIdx_of_lt (by omega)]
    exact placed

/-- The screen after a swipe. -/
theorem Consistent.swiped {screen : Screen} (consistent : Consistent screen) (row : Nat)
    (deletions : List Deletion) :
    Consistent
      { screen with
        filteredRemindersArr := screen.filteredRemindersArr.eraseIdx row
        deletions
        recordedRows := (screen.filteredRemindersArr.eraseIdx row).length
        cells := (screen.cells.filter (·.row ≠ row)).map (Cell.closeGap row) } where
  counted := rfl
  listed := (List.eraseIdx_sublist _ _).trans consistent.listed
  owned := consistent.owned
  distinct := consistent.distinct
  placed := fun cell member => by
    obtain ⟨old, kept, rfl⟩ := List.mem_map.1 member
    obtain ⟨onScreen, other⟩ := List.mem_filter.1 kept
    exact placed_closeGap (consistent.placed old onScreen) (by simpa using other)

/-! ## Cells -/

/-- A configured cell is at the row it was configured for and shows its reminder. -/
theorem cellForRowAt_eq_ok {screen : Screen} {row : Nat} {cell : Cell}
    (configured : cellForRowAt screen row = .ok cell) :
    cell.row = row ∧ cell.boundRow = row ∧
      screen.filteredRemindersArr[row]? = some cell.reminder ∧
      row < screen.isCellExpandedArr.length := by
  unfold cellForRowAt at configured
  split at configured
  · rename_i reminder at_
    split at configured
    · rename_i expanded flag
      cases configured
      exact ⟨rfl, rfl, at_, (List.getElem?_eq_some_iff.1 flag).1⟩
    · cases configured
  · cases configured

/-- A long press flips one flag and configures at most the cells of one row anew. -/
theorem doubleTapAction_eq_ok {screen screen' : Screen} {boundRow : Nat}
    (pressed : doubleTapAction screen boundRow = .ok screen') :
    boundRow < screen.isCellExpandedArr.length ∧ boundRow < screen.recordedRows ∧
      ∃ flags cells, screen' = { screen with isCellExpandedArr := flags, cells } ∧
        flags.length = screen.isCellExpandedArr.length ∧
        ∀ cell ∈ cells, cell ∈ screen.cells ∨
          cell.row = boundRow ∧ cell.boundRow = boundRow ∧
            screen.filteredRemindersArr[boundRow]? = some cell.reminder := by
  unfold doubleTapAction at pressed
  split at pressed
  · rename_i expanded flag
    have inRange := (List.getElem?_eq_some_iff.1 flag).1
    simp only [reloadRows] at pressed
    split at pressed
    · rename_i shown
      refine ⟨inRange, shown, screen.isCellExpandedArr.set boundRow (!expanded), ?_⟩
      split at pressed
      · split at pressed
        · rename_i cell configured
          cases pressed
          obtain ⟨row, bound, at_, -⟩ := cellForRowAt_eq_ok configured
          refine ⟨_, rfl, List.length_set, fun c member => ?_⟩
          obtain ⟨old, onScreen, rfl⟩ := List.mem_map.1 member
          by_cases here : old.row = boundRow
          · exact Or.inr (by simp only [here, if_true]; exact ⟨row, bound, at_⟩)
          · exact Or.inl (by simpa only [here, if_false] using onScreen)
        · cases pressed
      · cases pressed
        exact ⟨_, rfl, List.length_set, fun c member => Or.inl member⟩
    · cases pressed
  · cases pressed

theorem toOption_eq_some {α : Type} {result : Except Trap α} {a : α}
    (ran : result.toOption = some a) : result = .ok a := by
  cases result with
  | error trap => cases ran
  | ok b =>
      cases ran
      rfl

/-! ## What an event can do -/

/-- The events that only draw cells. -/
def Event.draws : Event → Bool
  | .viewWillAppear | .layout _ | .endDisplaying _ | .longPress _ => true
  | _ => false

/-- A cell just configured for its row. -/
structure Fresh (screen : Screen) (cell : Cell) : Prop where
  bound : cell.boundRow = cell.row
  counted : cell.row < screen.recordedRows
  flagged : cell.row < screen.isCellExpandedArr.length
  placed : screen.filteredRemindersArr[cell.row]? = some cell.reminder

/-- The effects an event has on a consistent screen, every one of them. -/
inductive Effect (ops : TextOps) (screen : Screen) : Event → Screen → Prop where
  | unheard {listener : Nat} {error : NSError} {querySnapshot : Option Snapshot} {ownerId : String}
      (registered : screen.listeners[listener]? = some ownerId)
      (live : listener ∉ screen.erased) :
      Effect ops screen (.snapshot listener (some error) querySnapshot)
        { screen with erased := listener :: screen.erased }
  | heard {listener : Nat} {querySnapshot : Option Snapshot} {ownerId : String}
      {reminders : List ReminderModel} (registered : screen.listeners[listener]? = some ownerId)
      (delivered : FirebaseService.loadRemindersListener ownerId none querySnapshot =
        .ok (.ok reminders)) :
      Effect ops screen (.snapshot listener none querySnapshot)
        (remindersLoaded screen (.ok reminders))
  | typed (searchText : String) :
      Effect ops screen (.textDidChange searchText) (textDidChange ops screen searchText)
  | cancelled : Effect ops screen .cancel (searchBarCancelButtonClicked screen)
  | swiped {row : Nat} {reminder : ReminderModel} {documentId : DocumentID}
      (at_ : screen.filteredRemindersArr[row]? = some reminder)
      (id : reminder.documentID = some documentId) :
      Effect ops screen (.swipeDelete row)
        { screen with
          filteredRemindersArr := screen.filteredRemindersArr.eraseIdx row
          deletions := screen.deletions ++ [⟨documentId, none⟩]
          recordedRows := (screen.filteredRemindersArr.eraseIdx row).length
          cells := (screen.cells.filter (·.row ≠ row)).map (Cell.closeGap row) }
  | answered {call : Nat} {documentID : DocumentID} (error : Option NSError)
      (currentUser : Option User)
      (outstanding : screen.deletions[call]? = some ⟨documentID, none⟩) :
      Effect ops screen (.deletionAnswered call error currentUser)
        (deletionAnswered screen call ⟨documentID, none⟩ error currentUser)
  | drawn {event : Event} {isCellExpandedArr : List Bool} {cells : List Cell}
      (draws : event.draws) (flags : isCellExpandedArr.length = screen.isCellExpandedArr.length)
      (shown : ∀ cell ∈ cells, cell ∈ screen.cells ∨ Fresh screen cell) :
      Effect ops screen event { screen with isCellExpandedArr, cells }

/-- **The effect of a step.** -/
theorem effect_of_step {ops : TextOps} {screen screen' : Screen} {event : Event}
    (consistent : Consistent screen) (moved : step ops screen event = some screen') :
    Effect ops screen event screen' := by
  cases event with
  | snapshot listener error querySnapshot =>
      simp only [step, snapshotDelivered] at moved
      split at moved
      · rename_i ownerId registered
        split at moved
        · cases moved
        · rename_i live
          obtain ⟨delivered, heard, rfl⟩ := Option.map_eq_some_iff.1 moved
          cases error with
          | some error =>
              cases heard
              exact .unheard registered live
          | none =>
              split at heard
              · rename_i result answered
                cases heard
                obtain ⟨reminders, rfl⟩ := FirebaseService.loadRemindersListener_success answered
                exact .heard registered answered
              · cases heard
      · cases moved
  | textDidChange searchText =>
      cases moved
      exact .typed searchText
  | cancel =>
      cases moved
      exact .cancelled
  | swipeDelete row =>
      simp only [step] at moved
      split at moved
      · rename_i shown
        rw [consistent.counted] at shown
        have at_ := List.getElem?_eq_getElem shown
        obtain ⟨documentId, id, done⟩ := performFillAction_eq consistent at_
        rw [done] at moved
        cases moved
        exact .swiped at_ id
      · cases moved
  | deletionAnswered call error currentUser =>
      simp only [step] at moved
      split at moved
      · rename_i documentID outstanding
        cases moved
        exact .answered error currentUser outstanding
      · cases moved
  | viewWillAppear =>
      cases moved
      have drawn : reloadData screen = { screen with cells := [] } := by
        simp only [reloadData, ← consistent.counted]
      rw [drawn]
      exact .drawn rfl rfl (by simp)
  | layout row =>
      simp only [step] at moved
      split at moved
      · rename_i free
        split at moved
        · rename_i cell configured
          cases moved
          obtain ⟨rfl, bound, at_, flagged⟩ := cellForRowAt_eq_ok configured
          refine .drawn rfl rfl fun c member => ?_
          rcases List.mem_append.1 member with old | new
          · exact Or.inl old
          · rw [List.mem_singleton.1 new]
            exact Or.inr ⟨bound, free.1, flagged, at_⟩
        · cases moved
      · cases moved
  | endDisplaying row =>
      cases moved
      exact .drawn rfl rfl fun c member => Or.inl (List.mem_of_mem_filter member)
  | longPress row =>
      simp only [step] at moved
      split at moved
      · obtain ⟨inRange, counted, flags, cells, rfl, length, drawn⟩ :=
          doubleTapAction_eq_ok (toOption_eq_some moved)
        refine .drawn rfl length fun c member => ?_
        rcases drawn c member with old | ⟨here, bound, at_⟩
        · exact Or.inl old
        · exact Or.inr ⟨bound.trans here.symm, here ▸ counted, here ▸ inRange, here ▸ at_⟩
      · cases moved

/-- **Every event keeps the screen consistent.** -/
theorem consistent_step (ops : TextOps) {screen screen' : Screen} {event : Event}
    (consistent : Consistent screen) (moved : step ops screen event = some screen') :
    Consistent screen' := by
  cases effect_of_step consistent moved with
  | unheard => exact { consistent with }
  | heard registered delivered => exact .delivered delivered
  | typed searchText =>
      rw [textDidChange_eq]
      have typed : Consistent { screen with searchText } := { consistent with }
      exact typed.reload List.filter_sublist
  | cancelled => exact { consistent with }
  | swiped at_ id => exact consistent.swiped _ _
  | answered error currentUser outstanding =>
      obtain ⟨listeners, answered⟩ := deletionAnswered_eq screen _ _ error currentUser
      rw [answered]
      exact { consistent with }
  | drawn draws flags shown =>
      refine { consistent with placed := fun cell onScreen => ?_ }
      rcases shown cell onScreen with old | fresh
      · exact consistent.placed cell old
      · exact fresh.placed

theorem consistent_reachable (ops : TextOps) {screen : Screen}
    (reached : (machine ops).Reachable screen) : Consistent screen :=
  reached.invariant (I := Consistent)
    (by
      rintro _ ⟨user, rfl⟩
      exact consistent_viewDidLoad user)
    (fun _ _ _ _ consistent _ moved => consistent_step ops consistent moved)

/-- **A swipe deletes the row that was swiped.**  In every reachable state, for
every row the table recorded: the array is indexed in range, the guards on owner,
document ID and first index succeed, the array loses exactly the element of that
row, the document asked to be deleted is the one shown there, and the array is one
shorter than the recorded row count, so `deleteRows` is accepted. -/
theorem swipeDelete_in_step (ops : TextOps) {screen : Screen}
    (reached : (machine ops).Reachable screen) {row : Nat} (shown : row < screen.recordedRows) :
    ∃ reminder ownerId documentId, screen.filteredRemindersArr[row]? = some reminder ∧
      reminder.ownerId = some ownerId ∧ reminder.documentID = some documentId ∧
      (screen.filteredRemindersArr.findIdx? fun r => r.documentID = some documentId) = some row ∧
      (∀ cell ∈ screen.cells, cell.row = row → cell.reminder = reminder) ∧
      ∃ handled deleted, deleteHandler screen row = .ok handled ∧
        handled.filteredRemindersArr = screen.filteredRemindersArr.eraseIdx row ∧
        handled.deletions = screen.deletions ++ [⟨documentId, none⟩] ∧
        handled.recordedRows = screen.recordedRows ∧
        handled.filteredRemindersArr.length = screen.recordedRows - 1 ∧
        deleteRows handled row = .ok deleted ∧
        deleted.recordedRows = deleted.filteredRemindersArr.length := by
  have consistent := consistent_reachable ops reached
  have inRange : row < screen.filteredRemindersArr.length := consistent.counted ▸ shown
  have at_ := List.getElem?_eq_getElem inRange
  obtain ⟨ownerId, documentId, owner, id, found, handled⟩ := deleteHandler_eq consistent at_
  have fewer := consistent.length_eraseIdx shown
  have shows_ : ∀ cell ∈ screen.cells, cell.row = row →
      cell.reminder = screen.filteredRemindersArr[row] := by
    intro cell onScreen here
    have placed := consistent.placed cell onScreen
    rw [here, at_] at placed
    exact (Option.some.inj placed).symm
  refine ⟨_, ownerId, documentId, at_, owner, id, found, shows_, ?_⟩
  have accepted := deleteRows_eq_ok { screen with
    filteredRemindersArr := screen.filteredRemindersArr.eraseIdx row
    deletions := screen.deletions ++ [⟨documentId, none⟩] } row fewer
  exact ⟨_, _, handled, rfl, rfl, rfl, by simp only; omega, accepted, rfl⟩

/-- Two reminders delivered to ann's screen, the second one laid out. -/
def milkAndCall : List Event :=
  [.snapshot 0 none (some
      { documents :=
          [⟨"d1", FirebaseService.reminderData "ann" { title := some "Milk" }⟩,
            ⟨"d2", FirebaseService.reminderData "ann" { title := some "Call" }⟩]
        distinct := by decide }),
    .layout 1]

def listedScreen (ops : TextOps) : Screen :=
  ((machine ops).run (viewDidLoad (some ⟨"ann", none⟩)) milkAndCall).getD (viewDidLoad none)

theorem listedScreen_swipeDelete_in_step :
    let ops : TextOps := ⟨id, fun title text => title == text⟩
    ∃ reminder ownerId documentId, (listedScreen ops).filteredRemindersArr[1]? = some reminder ∧
      reminder.ownerId = some ownerId ∧ reminder.documentID = some documentId ∧
      ((listedScreen ops).filteredRemindersArr.findIdx? fun r => r.documentID = some documentId) =
        some 1 ∧
      (∀ cell ∈ (listedScreen ops).cells, cell.row = 1 → cell.reminder = reminder) ∧
      ∃ handled deleted, deleteHandler (listedScreen ops) 1 = .ok handled ∧
        handled.filteredRemindersArr = (listedScreen ops).filteredRemindersArr.eraseIdx 1 ∧
        handled.deletions = (listedScreen ops).deletions ++ [⟨documentId, none⟩] ∧
        handled.recordedRows = (listedScreen ops).recordedRows ∧
        handled.filteredRemindersArr.length = (listedScreen ops).recordedRows - 1 ∧
        deleteRows handled 1 = .ok deleted ∧
        deleted.recordedRows = deleted.filteredRemindersArr.length := by
  intro ops
  have ran : (machine ops).run (viewDidLoad (some ⟨"ann", none⟩)) milkAndCall =
      some (listedScreen ops) := rfl
  exact swipeDelete_in_step ops (Machine.reachable_of_run ⟨_, rfl⟩ ran) (by decide)

end Remindify.Home
