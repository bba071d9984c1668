/-
# Home.Expansion -- whose expansion a row shows

`isCellExpandedArr` has a flag for each row; a long press flips the flag of the row its
cell was configured for.  `handleDoubleTap` does not look at the state of the recogniser,
so one gesture flips the flag when it begins, at every movement and when it ends.

`Pressed` is the Home screen with the presses that are under way and a count of the
complete gestures each reminder received.  Every action of a recogniser is an event of its
own, so snapshots, searches, swipes and layouts happen between the actions of one gesture.

* `expanded_tapped_iff`: what one action does to the cells on screen;
* `began_breaks`: the first action of a press on a screen laid out from the current arrays
  already shows a row as no count of complete gestures has it;
* `throughout_expanded_iff`: every cell laid out from the current arrays is expanded as
  often as its reminder was pressed, throughout a run, exactly when each event of the run
  meets `KeepsExpansion`;
* `stillPress_expands_nothing`: one press without a movement is enough.
-/
import Remindify.Home.TableInvariant

namespace Remindify.Home

open Remindify.Theory
open Remindify.Network

set_option autoImplicit false

/-! ## Gestures -/

/-- The states a `UILongPressGestureRecognizer` sends its action in. -/
inductive GestureState where
  | began
  | changed
  | ended
  | cancelled
  deriving DecidableEq, Repr

/-- `handleDoubleTap` of a cell, whatever the state. -/
def handleDoubleTap (screen : Screen) (boundRow : Nat) (_ : GestureState) : Except Trap Screen :=
  doubleTapAction screen boundRow

/-- A press under way. -/
structure Press where
  /-- the index path the `doubleTapAction` of its cell has captured -/
  boundRow : Nat
  /-- the reminder the cell showed when the press began -/
  documentID : Option DocumentID
  deriving DecidableEq, Repr

structure Pressed where
  screen : Screen
  presses : List Press
  /-- the complete gestures a reminder received while displayed -/
  gestures : Option DocumentID → Nat

/-- One gesture more for a reminder. -/
def received (gestures : Option DocumentID → Nat) (pressed : Option DocumentID) :
    Option DocumentID → Nat :=
  fun documentID => if documentID = pressed then gestures documentID + 1 else gestures documentID

/-- The reminder received an odd number of gestures. -/
def odd (gestures : Option DocumentID → Nat) (reminder : ReminderModel) : Bool :=
  decide (gestures reminder.documentID % 2 = 1)

namespace Pressed

inductive Event where
  | screen (event : Home.Event)
  /-- a long press begins on the cell shown at `row` -/
  | began (row : Nat)
  /-- the finger of press `press` moves -/
  | changed (press : Nat)
  /-- press `press` is complete -/
  | ended (press : Nat) (isCancelled : Bool)
  /-- the cell of press `press` was dequeued for the row now shown at `row` -/
  | dequeued (press : Nat) (row : Nat)

/-- The cell a press is made on gets all its actions, also after it has left the screen:
`reloadRows` and `reloadData` replace it, and the table view may use it again. -/
def step (ops : TextOps) (pressed : Pressed) : Event → Option Pressed
  | .screen (.longPress _) => none
  | .screen event =>
      (Home.step ops pressed.screen event).map fun screen => { pressed with screen }
  | .began row =>
      match pressed.screen.cells.find? (·.row == row) with
      | some cell =>
          (handleDoubleTap pressed.screen cell.boundRow .began).toOption.map fun screen =>
            let press : Press := ⟨cell.boundRow, cell.reminder.documentID⟩
            { pressed with screen, presses := pressed.presses ++ [press] }
      | none => none
  | .changed press =>
      match pressed.presses[press]? with
      | some ⟨boundRow, _⟩ =>
          (handleDoubleTap pressed.screen boundRow .changed).toOption.map fun screen =>
            { pressed with screen }
      | none => none
  | .ended press isCancelled =>
      match pressed.presses[press]? with
      | some ⟨boundRow, documentID⟩ =>
          let state : GestureState := if isCancelled then .cancelled else .ended
          (handleDoubleTap pressed.screen boundRow state).toOption.map fun screen =>
            { screen
              presses := pressed.presses.eraseIdx press
              gestures := received pressed.gestures documentID }
      | none => none
  | .dequeued press row =>
      match pressed.presses[press]?, pressed.screen.cells.find? (·.row == row) with
      | some ⟨_, documentID⟩, some cell =>
          let presses := pressed.presses.set press ⟨cell.boundRow, documentID⟩
          some { pressed with presses }
      | _, _ => none

def start (currentUser : Option User) : Pressed :=
  ⟨viewDidLoad currentUser, [], fun _ => 0⟩

def machine (ops : TextOps) : Machine Pressed Event where
  init pressed := ∃ currentUser, pressed = start currentUser
  step := step ops

end Pressed

/-! ## What is to be shown -/

/-- The cell is the one its row would be given now. -/
def Current (screen : Screen) (cell : Cell) : Prop :=
  cellForRowAt screen cell.row = .ok cell

/-- The cells on screen have been laid out from the current arrays. -/
def LaidOut (screen : Screen) : Prop :=
  ∀ cell ∈ screen.cells, Current screen cell

/-- The cells of the other rows have been laid out from the current arrays. -/
def LaidOutBesides (screen : Screen) (row : Nat) : Prop :=
  ∀ cell ∈ screen.cells, cell.row ≠ row → Current screen cell

/-- The flags of the rows on screen, that of `boundRow` flipped, agree with the counts. -/
def FlippedAgree (screen : Screen) (boundRow : Nat) (gestures : Option DocumentID → Nat) : Prop :=
  ∀ cell ∈ screen.cells, ∀ flag, screen.isCellExpandedArr[cell.row]? = some flag →
    (flag ^^ decide (cell.row = boundRow)) = odd gestures cell.reminder

namespace Pressed

/-- **Once the cells have been laid out from the current arrays, the cell of a reminder is
expanded exactly when the reminder was pressed an odd number of times.** -/
def Expanded (pressed : Pressed) : Prop :=
  LaidOut pressed.screen →
    ∀ cell ∈ pressed.screen.cells, cell.isExpanded = odd pressed.gestures cell.reminder

/-- The cells of the other rows agree with the counts. -/
def OthersAgree (pressed : Pressed) (row : Nat) : Prop :=
  ∀ cell ∈ pressed.screen.cells, cell.row ≠ row →
    cell.isExpanded = odd pressed.gestures cell.reminder

/-- The condition on an event. -/
def KeepsExpansion (pressed : Pressed) : Event → Prop
  | .screen (.layout row) =>
      LaidOut pressed.screen →
        ∀ reminder flag, pressed.screen.filteredRemindersArr[row]? = some reminder →
          pressed.screen.isCellExpandedArr[row]? = some flag → flag = odd pressed.gestures reminder
  | .screen (.endDisplaying row) => LaidOutBesides pressed.screen row → pressed.OthersAgree row
  | .screen (.swipeDelete row) =>
      LaidOutBesides pressed.screen row →
        (∀ cell ∈ pressed.screen.cells, cell.row ≤ row) → pressed.OthersAgree row
  | .screen _ => True
  | .began row =>
      ∀ cell, pressed.screen.cells.find? (·.row == row) = some cell →
        LaidOutBesides pressed.screen cell.boundRow →
          FlippedAgree pressed.screen cell.boundRow pressed.gestures
  | .changed press =>
      ∀ boundRow documentID, pressed.presses[press]? = some ⟨boundRow, documentID⟩ →
        LaidOutBesides pressed.screen boundRow →
          FlippedAgree pressed.screen boundRow pressed.gestures
  | .ended press _ =>
      ∀ boundRow documentID, pressed.presses[press]? = some ⟨boundRow, documentID⟩ →
        LaidOutBesides pressed.screen boundRow →
          FlippedAgree pressed.screen boundRow (received pressed.gestures documentID)
  | .dequeued _ _ => True

end Pressed

/-! ## What an action does -/

theorem cellForRowAt_iff {screen : Screen} {row : Nat} {cell : Cell} :
    cellForRowAt screen row = .ok cell ↔
      ∃ reminder flag, screen.filteredRemindersArr[row]? = some reminder ∧
        screen.isCellExpandedArr[row]? = some flag ∧ cell = ⟨row, row, reminder, flag⟩ := by
  unfold cellForRowAt
  cases screen.filteredRemindersArr[row]? with
  | none => simp
  | some reminder =>
      cases screen.isCellExpandedArr[row]? with
      | none => simp
      | some flag => simp [eq_comm]

/-- A placed cell is current when it is where it was configured and has the flag of its
row. -/
theorem current_iff {screen : Screen} {cell : Cell}
    (placed : screen.filteredRemindersArr[cell.row]? = some cell.reminder) :
    Current screen cell ↔
      cell.boundRow = cell.row ∧ screen.isCellExpandedArr[cell.row]? = some cell.isExpanded := by
  unfold Current
  rw [cellForRowAt_iff]
  constructor
  · rintro ⟨reminder, flag, -, flagged, same⟩
    rw [same]
    exact ⟨rfl, flagged⟩
  · rintro ⟨bound, flagged⟩
    refine ⟨cell.reminder, cell.isExpanded, placed, flagged, ?_⟩
    obtain ⟨row, boundRow, reminder, isExpanded⟩ := cell
    obtain rfl : boundRow = row := bound
    rfl

/-- The cell of row `row` configured again, with a new flag. -/
def Cell.refresh (row : Nat) (isExpanded : Bool) (cell : Cell) : Cell :=
  if cell.row = row then ⟨row, row, cell.reminder, isExpanded⟩ else cell

theorem Cell.refresh_of_ne {cell : Cell} {row : Nat} {isExpanded : Bool} (other : cell.row ≠ row) :
    cell.refresh row isExpanded = cell :=
  if_neg other

/-- The screen once `row` has a new flag and its cell shows it. -/
def Screen.showFlag (screen : Screen) (row : Nat) (isExpanded : Bool) : Screen :=
  { screen with
    isCellExpandedArr := screen.isCellExpandedArr.set row isExpanded
    cells := screen.cells.map (Cell.refresh row isExpanded) }

section Actions

variable {screen screen' : Screen} {boundRow : Nat}

/-- Where no cell shows the row, none changes. -/
theorem refresh_absent {isExpanded : Bool}
    (absent : ¬ screen.cells.any (·.row == boundRow)) :
    screen.cells.map (Cell.refresh boundRow isExpanded) = screen.cells := by
  have same : ∀ cell ∈ screen.cells, cell.refresh boundRow isExpanded = cell := by
    intro cell onScreen
    refine Cell.refresh_of_ne fun here => absent ?_
    exact List.any_eq_true.2 ⟨cell, onScreen, beq_iff_eq.2 here⟩
  rw [List.map_congr_left same, List.map_id']

/-- The reminder of the row is the one the cell there shows already. -/
theorem refresh_configured (consistent : Consistent screen) {reminder : ReminderModel}
    {isExpanded : Bool} (at_ : screen.filteredRemindersArr[boundRow]? = some reminder) :
    (screen.cells.map fun cell =>
        if cell.row = boundRow then ⟨boundRow, boundRow, reminder, isExpanded⟩ else cell) =
      screen.cells.map (Cell.refresh boundRow isExpanded) := by
  refine List.map_congr_left fun cell onScreen => ?_
  unfold Cell.refresh
  split
  · rename_i here
    have placed := consistent.placed cell onScreen
    rw [here] at placed
    rw [Option.some.inj (at_.symm.trans placed)]
  · rfl

/-- **One action** flips the flag of the row the cell was configured for, and configures the
cell shown there. -/
theorem doubleTapAction_showFlag (consistent : Consistent screen)
    (tapped : doubleTapAction screen boundRow = .ok screen') :
    ∃ flag, screen.isCellExpandedArr[boundRow]? = some flag ∧
      screen' = screen.showFlag boundRow (!flag) := by
  unfold doubleTapAction at tapped
  split at tapped
  · rename_i flag flagged
    have flipped : (screen.isCellExpandedArr.set boundRow (!flag))[boundRow]? = some (!flag) :=
      List.getElem?_set_self (List.getElem?_eq_some_iff.1 flagged).1
    refine ⟨flag, flagged, ?_⟩
    simp only [reloadRows] at tapped
    split at tapped
    · split at tapped
      · split at tapped
        · rename_i configured
          cases tapped
          obtain ⟨reminder, flag', at_, flagged', rfl⟩ := cellForRowAt_iff.1 configured
          cases flagged'.symm.trans flipped
          simp only [Screen.showFlag, refresh_configured consistent at_]
        · cases tapped
      · rename_i absent
        cases tapped
        simp only [Screen.showFlag, refresh_absent absent]
    · cases tapped
  · cases tapped

/-- The cell of the row has just been configured, the others are as they were. -/
theorem laidOut_showFlag_iff (consistent : Consistent screen) (isExpanded : Bool)
    (inRange : boundRow < screen.isCellExpandedArr.length) :
    LaidOut (screen.showFlag boundRow isExpanded) ↔ LaidOutBesides screen boundRow := by
  unfold LaidOut LaidOutBesides
  rw [Screen.showFlag, List.forall_mem_map]
  refine forall₂_congr fun cell onScreen => ?_
  have placed := consistent.placed cell onScreen
  by_cases here : cell.row = boundRow
  · refine ⟨fun _ other => absurd here other, fun _ => ?_⟩
    rw [Cell.refresh, if_pos here]
    exact cellForRowAt_iff.2
      ⟨cell.reminder, isExpanded, here ▸ placed, List.getElem?_set_self inRange, rfl⟩
  · have other : (screen.isCellExpandedArr.set boundRow isExpanded)[cell.row]? =
        screen.isCellExpandedArr[cell.row]? := List.getElem?_set_ne (Ne.symm here)
    have after : Current (screen.showFlag boundRow isExpanded) cell ↔
        cell.boundRow = cell.row ∧
          (screen.isCellExpandedArr.set boundRow isExpanded)[cell.row]? = some cell.isExpanded :=
      current_iff placed
    rw [Cell.refresh_of_ne here]
    refine after.trans ?_
    rw [other, ← current_iff placed]
    exact (imp_iff_right here).symm

end Actions

/-! ## Cells only move up -/

/-- A consistent screen whose cells are at most as far down as when they were
configured. -/
structure Lifted (screen : Screen) : Prop where
  consistent : Consistent screen
  lifted : ∀ cell ∈ screen.cells, cell.row ≤ cell.boundRow

section Lifted

variable {ops : TextOps} {screen screen' : Screen}

theorem lifted_viewDidLoad (currentUser : Option User) : Lifted (viewDidLoad currentUser) :=
  ⟨consistent_viewDidLoad currentUser, by simp [viewDidLoad]⟩

theorem closeGap_same (row : Nat) (cell : Cell) :
    (cell.closeGap row).boundRow = cell.boundRow ∧ (cell.closeGap row).reminder = cell.reminder ∧
      (cell.closeGap row).isExpanded = cell.isExpanded := by
  unfold Cell.closeGap
  split <;> exact ⟨rfl, rfl, rfl⟩

theorem closeGap_of_le {row : Nat} {cell : Cell} (above : cell.row ≤ row) :
    cell.closeGap row = cell :=
  if_neg (Nat.not_lt.2 above)

theorem closeGap_row {row : Nat} {cell : Cell} (below : row < cell.row) :
    (cell.closeGap row).row = cell.row - 1 := by
  rw [Cell.closeGap, if_pos below]

theorem closeGap_row_le (row : Nat) (cell : Cell) : (cell.closeGap row).row ≤ cell.row := by
  by_cases below : row < cell.row
  · exact (closeGap_row below).le.trans (Nat.sub_le _ _)
  · rw [closeGap_of_le (Nat.not_lt.1 below)]

/-- The cells a swipe leaves. -/
theorem forall_closeGap {cells : List Cell} {row : Nat} {P : Cell → Prop} :
    (∀ cell ∈ (cells.filter (·.row ≠ row)).map (Cell.closeGap row), P cell) ↔
      ∀ cell ∈ cells, cell.row ≠ row → P (cell.closeGap row) := by
  simp only [List.forall_mem_map, List.mem_filter, decide_eq_true_eq, and_imp]

theorem Lifted.step {event : Event} (lifted : Lifted screen)
    (moved : Home.step ops screen event = some screen') : Lifted screen' := by
  refine ⟨consistent_step ops lifted.consistent moved, ?_⟩
  cases effect_of_step lifted.consistent moved with
  | heard registered delivered => simp [remindersLoaded, reloadData]
  | typed searchText =>
      rw [textDidChange_eq]
      simp [reloadData]
  | swiped at_ id =>
      intro cell member
      obtain ⟨old, kept, rfl⟩ := List.mem_map.1 member
      rw [(closeGap_same _ old).1]
      exact (closeGap_row_le _ old).trans (lifted.lifted old (List.mem_of_mem_filter kept))
  | answered error currentUser outstanding =>
      obtain ⟨listeners, answered⟩ := deletionAnswered_eq screen _ _ error currentUser
      rw [answered]
      exact lifted.lifted
  | drawn draws flags shown =>
      intro cell member
      rcases shown cell member with old | fresh
      · exact lifted.lifted cell old
      · exact Nat.le_of_eq fresh.bound.symm
  | unheard | cancelled => exact lifted.lifted

theorem Lifted.tapped {boundRow : Nat} (lifted : Lifted screen)
    (tapped : doubleTapAction screen boundRow = .ok screen') : Lifted screen' := by
  obtain ⟨-, -, flags, cells, rfl, -, drawn⟩ := doubleTapAction_eq_ok tapped
  refine ⟨{ lifted.consistent with placed := fun cell member => ?_ }, fun cell member => ?_⟩
  · rcases drawn cell member with old | ⟨here, -, at_⟩
    · exact lifted.consistent.placed cell old
    · exact here ▸ at_
  · rcases drawn cell member with old | ⟨here, bound, -⟩
    · exact lifted.lifted cell old
    · omega

/-- A swipe moves the cells below it up as they are, and none of them is the one its new row
would be given. -/
theorem laidOut_swiped_iff (lifted : Lifted screen) (row : Nat) (deletions : List Deletion) :
    LaidOut
        { screen with
          filteredRemindersArr := screen.filteredRemindersArr.eraseIdx row
          deletions
          recordedRows := (screen.filteredRemindersArr.eraseIdx row).length
          cells := (screen.cells.filter (·.row ≠ row)).map (Cell.closeGap row) } ↔
      LaidOutBesides screen row ∧ ∀ cell ∈ screen.cells, cell.row ≤ row := by
  have swiped := lifted.consistent.swiped row deletions
  -- a cell above the swipe is as it was, one below is not where it was configured
  have each : ∀ cell ∈ screen.cells, cell.row ≠ row →
      (Current
          { screen with
            filteredRemindersArr := screen.filteredRemindersArr.eraseIdx row
            deletions
            recordedRows := (screen.filteredRemindersArr.eraseIdx row).length
            cells := (screen.cells.filter (·.row ≠ row)).map (Cell.closeGap row) }
          (cell.closeGap row) ↔ Current screen cell ∧ cell.row ≤ row) := by
    intro cell onScreen other
    have kept := forall_closeGap.1 (fun _ member => swiped.placed _ member) cell onScreen other
    refine (current_iff kept).trans ?_
    by_cases above : cell.row ≤ row
    · rw [closeGap_of_le above, and_iff_left above]
      exact (current_iff (lifted.consistent.placed cell onScreen)).symm
    · have up := lifted.lifted cell onScreen
      rw [closeGap_row (Nat.not_le.1 above), (closeGap_same row cell).1]
      exact ⟨fun current => by omega, fun current => absurd current.2 above⟩
  unfold LaidOut LaidOutBesides
  rw [forall_closeGap]
  constructor
  · intro current
    refine ⟨fun cell onScreen other => ((each cell onScreen other).1 (current _ onScreen other)).1,
      fun cell onScreen => ?_⟩
    by_cases here : cell.row = row
    · exact here.le
    · exact ((each cell onScreen here).1 (current _ onScreen here)).2
  · rintro ⟨besides, above⟩ cell onScreen other
    exact (each cell onScreen other).2 ⟨besides cell onScreen other, above cell onScreen⟩

end Lifted

/-! ## One step -/

namespace Pressed

section Step

variable {ops : TextOps} {pressed pressed' : Pressed}

/-- A screen without cells shows nothing wrong. -/
theorem expanded_of_no_cells (bare : pressed.screen.cells = []) : Expanded pressed := by
  intro _ cell onScreen
  rw [bare] at onScreen
  cases onScreen

/-- **An action** of a press whose cell was configured for `boundRow`, with the counts
after it. -/
theorem expanded_tapped_iff {screen : Screen} {boundRow : Nat} (presses : List Press)
    (gestures : Option DocumentID → Nat) (consistent : Consistent pressed.screen)
    (tapped : doubleTapAction pressed.screen boundRow = .ok screen) :
    Expanded ⟨screen, presses, gestures⟩ ↔
      (LaidOutBesides pressed.screen boundRow →
        FlippedAgree pressed.screen boundRow gestures) := by
  obtain ⟨flag, flagged, rfl⟩ := doubleTapAction_showFlag consistent tapped
  have laidOut := laidOut_showFlag_iff consistent (!flag)
    (List.getElem?_eq_some_iff.1 flagged).1
  refine Iff.trans (imp_congr_left laidOut) (imp_congr_right fun besides => ?_)
  rw [Screen.showFlag, FlippedAgree, List.forall_mem_map]
  refine forall₂_congr fun cell onScreen => ?_
  by_cases here : cell.row = boundRow
  · rw [Cell.refresh, if_pos here, here, flagged]
    simp
  · have current := (current_iff (consistent.placed cell onScreen)).1 (besides cell onScreen here)
    rw [Cell.refresh_of_ne here, current.2]
    simp [here]

/-- **A press on a screen laid out from the current arrays** shows its row as no count of
complete gestures has it, from its first action on. -/
theorem began_breaks {cell : Cell} {row : Nat} (consistent : Consistent pressed.screen)
    (expanded : Expanded pressed) (laidOut : LaidOut pressed.screen)
    (found : pressed.screen.cells.find? (·.row == row) = some cell) :
    ¬ KeepsExpansion pressed (.began row) := by
  intro keeps
  have onScreen := List.mem_of_find?_eq_some found
  have before := expanded laidOut cell onScreen
  obtain ⟨bound, flagged⟩ :=
    (current_iff (consistent.placed cell onScreen)).1 (laidOut cell onScreen)
  have besides : LaidOutBesides pressed.screen cell.boundRow :=
    fun other shown _ => laidOut other shown
  have after := keeps cell found besides cell onScreen cell.isExpanded flagged
  rw [← before, bound] at after
  cases isExpanded : cell.isExpanded <;> simp [isExpanded] at after

/-- Laying out one more row. -/
theorem expanded_layout_iff {row : Nat} {cell : Cell} (expanded : Expanded pressed)
    (configured : cellForRowAt pressed.screen row = .ok cell) :
    Expanded
        { pressed with
          screen := { pressed.screen with cells := pressed.screen.cells ++ [cell] } } ↔
      KeepsExpansion pressed (.screen (.layout row)) := by
  obtain ⟨reminder, flag, at_, flagged, rfl⟩ := cellForRowAt_iff.1 configured
  have laidOut :
      LaidOut { pressed.screen with
          cells := pressed.screen.cells ++ [⟨row, row, reminder, flag⟩] } ↔
        LaidOut pressed.screen := by
    unfold LaidOut
    rw [List.forall_mem_append, List.forall_mem_singleton]
    exact and_iff_left configured
  refine Iff.trans (imp_congr_left laidOut) (imp_congr_right fun current => ?_)
  rw [List.forall_mem_append, List.forall_mem_singleton, and_iff_right (expanded current)]
  constructor
  · intro agrees reminder' flag' at' flagged'
    cases at'.symm.trans at_
    cases flagged'.symm.trans flagged
    exact agrees
  · exact fun agrees => agrees reminder flag at_ flagged

/-- A cell leaving the screen. -/
theorem expanded_endDisplaying_iff {row : Nat} :
    Expanded
        { pressed with
          screen := { pressed.screen with cells := pressed.screen.cells.filter (·.row ≠ row) } } ↔
      KeepsExpansion pressed (.screen (.endDisplaying row)) := by
  have kept : ∀ P : Cell → Prop, (∀ cell ∈ pressed.screen.cells.filter (·.row ≠ row), P cell) ↔
      ∀ cell ∈ pressed.screen.cells, cell.row ≠ row → P cell := by
    intro P
    simp only [List.mem_filter, decide_eq_true_eq, and_imp]
  unfold Expanded LaidOut
  rw [kept, kept]
  exact Iff.rfl

/-- A swipe. -/
theorem expanded_swiped_iff {row : Nat} (lifted : Lifted pressed.screen)
    (deletions : List Deletion) :
    Expanded
        { pressed with
          screen :=
            { pressed.screen with
              filteredRemindersArr := pressed.screen.filteredRemindersArr.eraseIdx row
              deletions
              recordedRows := (pressed.screen.filteredRemindersArr.eraseIdx row).length
              cells := (pressed.screen.cells.filter (·.row ≠ row)).map (Cell.closeGap row) } } ↔
      KeepsExpansion pressed (.screen (.swipeDelete row)) := by
  refine Iff.trans (imp_congr_left (laidOut_swiped_iff lifted row deletions)) (and_imp.trans ?_)
  refine imp_congr_right fun _ => imp_congr_right fun _ => ?_
  rw [forall_closeGap]
  simp only [(closeGap_same row _).2]
  exact Iff.rfl

/-- Events that only draw. -/
theorem expanded_drawn_iff {event : Home.Event} {screen : Screen} (expanded : Expanded pressed)
    (draws : event.draws) (noPress : ∀ row, event ≠ .longPress row)
    (stepped : Home.step ops pressed.screen event = some screen) :
    Expanded { pressed with screen } ↔ KeepsExpansion pressed (.screen event) := by
  cases event with
  | viewWillAppear =>
      cases stepped
      exact ⟨fun _ => trivial, fun _ => expanded_of_no_cells rfl⟩
  | layout row =>
      simp only [Home.step] at stepped
      split at stepped
      · split at stepped
        · rename_i cell configured
          cases stepped
          exact expanded_layout_iff expanded configured
        · cases stepped
      · cases stepped
  | endDisplaying row =>
      cases stepped
      exact expanded_endDisplaying_iff
  | longPress row => exact absurd rfl (noPress row)
  | snapshot | textDidChange | cancel | swipeDelete | deletionAnswered => cases draws

/-- Another event of the screen. -/
theorem expanded_screen_iff {event : Home.Event} {screen : Screen}
    (lifted : Lifted pressed.screen) (expanded : Expanded pressed)
    (noPress : ∀ row, event ≠ .longPress row)
    (stepped : Home.step ops pressed.screen event = some screen) :
    Expanded { pressed with screen } ↔ KeepsExpansion pressed (.screen event) := by
  cases effect_of_step lifted.consistent stepped with
  | unheard | cancelled => exact ⟨fun _ => trivial, fun _ => expanded⟩
  | heard registered delivered => exact ⟨fun _ => trivial, fun _ => expanded_of_no_cells rfl⟩
  | typed searchText =>
      rw [textDidChange_eq]
      exact ⟨fun _ => trivial, fun _ => expanded_of_no_cells rfl⟩
  | swiped at_ id => exact expanded_swiped_iff lifted _
  | answered error currentUser outstanding =>
      obtain ⟨listeners, answered⟩ := deletionAnswered_eq pressed.screen _ _ error currentUser
      rw [answered]
      exact ⟨fun _ => trivial, fun _ => expanded⟩
  | drawn draws length shown => exact expanded_drawn_iff expanded draws noPress stepped

/-- **What a step is**: another event of the screen, an action of a press, or a cell used
again. -/
inductive Moved (ops : TextOps) (pressed : Pressed) : Event → Pressed → Prop where
  | screen {event : Home.Event} {screen : Screen} (noPress : ∀ row, event ≠ .longPress row)
      (stepped : Home.step ops pressed.screen event = some screen) :
      Moved ops pressed (.screen event) { pressed with screen }
  | began {row : Nat} {cell : Cell} {screen : Screen}
      (found : pressed.screen.cells.find? (·.row == row) = some cell)
      (tapped : doubleTapAction pressed.screen cell.boundRow = .ok screen) :
      Moved ops pressed (.began row)
        { pressed with
          screen
          presses := pressed.presses ++ [⟨cell.boundRow, cell.reminder.documentID⟩] }
  | changed {press boundRow : Nat} {documentID : Option DocumentID} {screen : Screen}
      (held : pressed.presses[press]? = some ⟨boundRow, documentID⟩)
      (tapped : doubleTapAction pressed.screen boundRow = .ok screen) :
      Moved ops pressed (.changed press) { pressed with screen }
  | ended {press boundRow : Nat} {documentID : Option DocumentID} {screen : Screen}
      (isCancelled : Bool) (held : pressed.presses[press]? = some ⟨boundRow, documentID⟩)
      (tapped : doubleTapAction pressed.screen boundRow = .ok screen) :
      Moved ops pressed (.ended press isCancelled)
        ⟨screen, pressed.presses.eraseIdx press, received pressed.gestures documentID⟩
  | dequeued (press row : Nat) (presses : List Press) :
      Moved ops pressed (.dequeued press row) { pressed with presses }

theorem moved_of_step {event : Event} (moved : step ops pressed event = some pressed') :
    Moved ops pressed event pressed' := by
  cases event with
  | screen event =>
      have noPress : ∀ row, event ≠ .longPress row := by
        rintro row rfl
        cases moved
      have unfolded : step ops pressed (.screen event) =
          (Home.step ops pressed.screen event).map fun screen => { pressed with screen } := by
        cases event with
        | longPress row => exact absurd rfl (noPress row)
        | _ => rfl
      rw [unfolded] at moved
      obtain ⟨screen, stepped, rfl⟩ := Option.map_eq_some_iff.1 moved
      exact .screen noPress stepped
  | began row =>
      simp only [step] at moved
      split at moved
      · rename_i cell found
        obtain ⟨screen, tapped, rfl⟩ := Option.map_eq_some_iff.1 moved
        exact .began found (toOption_eq_some tapped)
      · cases moved
  | changed press =>
      simp only [step] at moved
      split at moved
      · rename_i held
        obtain ⟨screen, tapped, rfl⟩ := Option.map_eq_some_iff.1 moved
        exact .changed held (toOption_eq_some tapped)
      · cases moved
  | ended press isCancelled =>
      simp only [step] at moved
      split at moved
      · rename_i held
        obtain ⟨screen, tapped, rfl⟩ := Option.map_eq_some_iff.1 moved
        exact .ended isCancelled held (toOption_eq_some tapped)
      · cases moved
  | dequeued press row =>
      simp only [step] at moved
      split at moved
      · cases moved
        exact .dequeued press row _
      · cases moved

theorem lifted_step {event : Event} (lifted : Lifted pressed.screen)
    (moved : step ops pressed event = some pressed') : Lifted pressed'.screen := by
  cases moved_of_step moved with
  | screen noPress stepped => exact lifted.step stepped
  | began found tapped => exact lifted.tapped tapped
  | changed held tapped => exact lifted.tapped tapped
  | ended isCancelled held tapped => exact lifted.tapped tapped
  | dequeued => exact lifted

/-- **One event** leaves every cell that is laid out from the current arrays as its count
has it exactly when it meets the condition. -/
theorem expanded_step_iff {event : Event} (lifted : Lifted pressed.screen)
    (expanded : Expanded pressed) (moved : step ops pressed event = some pressed') :
    Expanded pressed' ↔ KeepsExpansion pressed event := by
  have consistent := lifted.consistent
  cases moved_of_step moved with
  | screen noPress stepped => exact expanded_screen_iff lifted expanded noPress stepped
  | began found tapped =>
      rw [expanded_tapped_iff _ _ consistent tapped]
      simp only [KeepsExpansion, found, Option.some.injEq, forall_eq']
  | changed held tapped =>
      rw [expanded_tapped_iff _ _ consistent tapped]
      simp only [KeepsExpansion, held, Option.some.injEq, Press.mk.injEq, and_imp, forall_eq',
        forall_apply_eq_imp_iff]
  | ended isCancelled held tapped =>
      rw [expanded_tapped_iff _ _ consistent tapped]
      simp only [KeepsExpansion, held, Option.some.injEq, Press.mk.injEq, and_imp, forall_eq',
        forall_apply_eq_imp_iff]
  | dequeued => exact ⟨fun _ => trivial, fun _ => expanded⟩

end Step

/-! ## Whole runs -/

/-- **Whose expansion a row shows.**  Along every run, every cell laid out from the current
arrays is expanded exactly when its reminder received an odd number of complete gestures, if
and only if every event of the run meets the condition in the state it happens in. -/
theorem throughout_expanded_iff (ops : TextOps) (currentUser : Option User) (es : List Event) :
    (machine ops).Throughout Expanded (start currentUser) es ↔
      (machine ops).RunOk KeepsExpansion (start currentUser) es :=
  Machine.throughout_iff_runOk (M := machine ops) (I := fun pressed => Lifted pressed.screen)
    (P := Expanded) (fun _ _ _ lifted _ moved _ => lifted_step lifted moved)
    (fun _ _ _ lifted expanded moved => expanded_step_iff lifted expanded moved)
    (lifted_viewDidLoad currentUser) (expanded_of_no_cells rfl) es

def oneReminder : Snapshot where
  documents := [⟨"a", FirebaseService.reminderData "ann" { title := some "a" }⟩]
  distinct := by decide

/-- A press without a movement sends two actions, and the row stays as it was. -/
theorem stillPress_expands_nothing :
    ¬ ∀ (ops : TextOps) (pressed : Pressed), (machine ops).Reachable pressed →
      Expanded pressed := by
  intro always
  let ops : TextOps := ⟨id, fun title text => title == text⟩
  have ran : (machine ops).run (start (some ⟨"ann", none⟩))
      [.screen (.snapshot 0 none (some oneReminder)), .screen (.layout 0),
        .began 0, .ended 0 false] = some _ := rfl
  have expanded := always ops _ (Machine.reachable_of_run ⟨_, rfl⟩ ran)
  have shown := expanded (List.forall_mem_singleton.2 rfl)
  exact absurd (List.forall_mem_singleton.1 shown) (by decide)

end Pressed

end Remindify.Home
