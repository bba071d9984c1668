/-
# Date.PickerView -- the picker while it is shown

The wheels, the row of days, `components` and `selectedDate` each hold the date.  A turn
of a wheel writes a component, a date is made of the components, and the observer of
`selectedDate` clamps it and tells the delegate; `resetTime` goes the other way and turns
the wheels.  Cells of the row of days are selected 0.3 seconds late.

`Agrees` is what holds of the parts in every state (`agrees_of_reachable`): the components
are those of the date, each wheel stands at a row that reads them, the title is the date,
and the date is in range.
-/
import Remindify.Date.DateTimePicker
import Remindify.Date.Days
import Remindify.Date.Wheels
import Remindify.Theory.Clamp
import Remindify.Theory.Machine

namespace Remindify.Date

open Remindify.Theory
open Remindify.Theory.Clamp
open Remindify.Theory.Gregorian

set_option autoImplicit false

structure PickerView extends DateTimePicker where
  face : Face
  dates : List Instant
  components : DateComponents
  hourRow : Nat := 0
  minuteRow : Nat := 0
  secondRow : Nat := 0
  amPmRow : Nat := 0
  /-- the selected cell of the row of days -/
  dayItem : Option Nat
  /-- the cells that are still to be selected, the next one first -/
  delayed : List Nat := []
  dateTitleLabel : String
  /-- the picker as it was when the delegate was told, the first time first -/
  told : List DateTimePicker := []
  deriving DecidableEq

namespace PickerView

section Operations

variable (view : PickerView)

/-- `updateCollectionView(to:)`: the cell is scrolled to, and selected later. -/
def updateCollectionView : PickerView :=
  match indexOf view.settings view.dates view.selectedDate with
  | some item => { view with delayed := view.delayed ++ [item] }
  | none => view

def resetTime : PickerView :=
  let view := { view with components := dateComponents view.settings view.selectedDate }
  let view := view.updateCollectionView
  { view with
    hourRow := view.face.expectedHourRow view.components.hour
    amPmRow := Face.expectedAmPmRow view.components.hour
    minuteRow := view.face.expectedMinuteRow view.components.minute
    secondRow := Face.expectedSecondRow view.components.second }

/-- `selectedDate` is set, with its observer. -/
def select (date : Instant) : PickerView :=
  let picker := view.toDateTimePicker.setSelectedDate date
  let view := { view with
    toDateTimePicker := picker
    told := view.told ++ [picker]
    dateTitleLabel := picker.selectedDateString }
  if view.selectedDate = view.minimumDate ∨ view.selectedDate = view.maximumDate then
    view.resetTime
  else view

/-- What every change of `components` ends with: the date is made and set. -/
def selectComponents : PickerView :=
  let selected := dateFrom view.settings view.components
  if selected < view.minimumDate then (view.select view.minimumDate).resetTime
  else view.select selected

/-- A table view selects a row. -/
def selectRow (wheel : Wheel) (row : Nat) : PickerView :=
  match wheel with
  | .hourTableView => { view with hourRow := row }
  | .minuteTableView => { view with minuteRow := row }
  | .secondTableView => { view with secondRow := row }
  | .amPmTableView => { view with amPmRow := row }

/-- `indexPathForSelectedRow`. -/
def row : Wheel → Nat
  | .hourTableView => view.hourRow
  | .minuteTableView => view.minuteRow
  | .secondTableView => view.secondRow
  | .amPmTableView => view.amPmRow

/-- The component a row is read into. -/
def readRow (wheel : Wheel) (row : Nat) : PickerView :=
  match wheel with
  | .hourTableView =>
      { view with components.hour := view.face.hourOfRow view.amPmRow row }
  | .minuteTableView => { view with components.minute := view.face.minuteOfRow row }
  | .secondTableView => { view with components.second := Face.secondOfRow row }
  | .amPmTableView =>
      { view with components.hour := Face.hourOfHalf row view.components.hour }

/-- `tableView(_:didSelectRowAt:)`. -/
def didSelectRowAt (wheel : Wheel) (row : Nat) : PickerView :=
  let selectedRow := view.face.adjustedRowForInfiniteScrolling wheel row
  ((view.selectRow wheel selectedRow).readRow wheel row).selectComponents

/-- Where scrolling ended: the first row that is half visible, if any row is visible, and
whether the AM/PM wheel is above its middle. -/
structure Scrolled where
  firstVisibleRow : Option Nat
  isAboveMiddle : Bool
  deriving DecidableEq

/-- The row `alignTableView` selects. -/
def alignedRow (face : Face) (wheel : Wheel) (scrolled : Scrolled) : Nat :=
  match scrolled.firstVisibleRow, decide (wheel = .amPmTableView) with
  | some firstVisibleRow, false =>
      let selectedRow :=
        if wheel = .minuteTableView ∧ face.timeInterval ≠ .default then
          min firstVisibleRow (face.numberOfRows wheel - 1)
        else firstVisibleRow + 1
      face.adjustedRowForInfiniteScrolling wheel selectedRow
  | _, true => if scrolled.isAboveMiddle then 0 else 1
  | none, false => 0

def alignTableView (wheel : Wheel) (scrolled : Scrolled) : PickerView :=
  let selectedRow := alignedRow view.face wheel scrolled
  ((view.selectRow wheel selectedRow).readRow wheel selectedRow).selectComponents

/-- The components a cell of the row of days is read into. -/
def readItem (item : Nat) (date : Instant) : PickerView :=
  let dayComponent := dateComponents view.settings date
  { view with
    dayItem := some item
    components.year := dayComponent.year
    components.month := dayComponent.month
    components.day := dayComponent.day }

/-- `collectionView(_:didSelectItemAt:)` and `alignCollectionView`: a cell is selected. -/
def selectItem (item : Nat) (date : Instant) : PickerView :=
  (view.readItem item date).selectComponents

/-- `setToday`. -/
def setToday (now : Instant) : PickerView := (view.select now).resetTime

end Operations

/-- `create(minimumDate:maximumDate:)` and `configureView`. -/
def create (face : Face) (picker : DateTimePicker) : PickerView :=
  let dates := fillDates picker.minimumDate picker.maximumDate
  let view : PickerView :=
    { toDateTimePicker := picker
      face
      dates
      components := dateComponents picker.settings picker.selectedDate
      dayItem := (indexOf picker.settings dates picker.selectedDate).or
        (dates.idxOf? picker.selectedDate)
      dateTitleLabel := picker.selectedDateString }
  view.updateCollectionView.resetTime

/-! ## The machine -/

inductive Event where
  | didSelectItemAt (item : Nat)
  | alignCollectionView (item : Nat)
  | didSelectRowAt (wheel : Wheel) (row : Nat)
  | alignTableView (wheel : Wheel) (scrolled : Scrolled)
  | setToday (now : Instant)
  /-- the callbacks of `didMoveToSuperview` and `show` -/
  | resetTime
  /-- the callback of `updateCollectionView` -/
  | selectDelayed
  deriving DecidableEq

def step (view : PickerView) : Event → Option PickerView
  | .didSelectItemAt item => view.dates[item]?.map (view.selectItem item)
  | .alignCollectionView item => view.dates[item]?.map (view.selectItem item)
  | .didSelectRowAt wheel row =>
      if view.face.Shows wheel ∧ row < view.face.numberOfRows wheel then
        some (view.didSelectRowAt wheel row)
      else none
  | .alignTableView wheel scrolled =>
      if view.face.Shows wheel ∧
          ∀ first ∈ scrolled.firstVisibleRow, first ≤ view.face.numberOfRows wheel then
        some (view.alignTableView wheel scrolled)
      else none
  | .setToday now => some (view.setToday now)
  | .resetTime => some view.resetTime
  | .selectDelayed =>
      match view.delayed with
      | item :: delayed => some { view with dayItem := some item, delayed }
      | [] => none

/-- A picker as the screens show it: the range begins in year 1 or later and has the
date. -/
structure Opened (picker : DateTimePicker) : Prop where
  common : 1 ≤ Gregorian.yearOf (dayOf picker.settings picker.minimumDate)
  since : picker.minimumDate ≤ picker.selectedDate
  until_ : picker.selectedDate ≤ picker.maximumDate

def machine : Machine PickerView Event where
  init view := ∃ face picker, Opened picker ∧ view = create face picker
  step := step

/-! ## What each operation leaves -/

section Frames

variable (view : PickerView)

@[simp] theorem updateCollectionView_toDateTimePicker :
    view.updateCollectionView.toDateTimePicker = view.toDateTimePicker := by
  unfold updateCollectionView
  split <;> rfl

@[simp] theorem updateCollectionView_face : view.updateCollectionView.face = view.face := by
  unfold updateCollectionView
  split <;> rfl

@[simp] theorem updateCollectionView_dates : view.updateCollectionView.dates = view.dates := by
  unfold updateCollectionView
  split <;> rfl

@[simp] theorem updateCollectionView_components :
    view.updateCollectionView.components = view.components := by
  unfold updateCollectionView
  split <;> rfl

@[simp] theorem updateCollectionView_dateTitleLabel :
    view.updateCollectionView.dateTitleLabel = view.dateTitleLabel := by
  unfold updateCollectionView
  split <;> rfl

@[simp] theorem updateCollectionView_told : view.updateCollectionView.told = view.told := by
  unfold updateCollectionView
  split <;> rfl

@[simp] theorem resetTime_toDateTimePicker :
    view.resetTime.toDateTimePicker = view.toDateTimePicker := by
  simp [resetTime]

@[simp] theorem resetTime_face : view.resetTime.face = view.face := by
  simp [resetTime]

@[simp] theorem resetTime_dates : view.resetTime.dates = view.dates := by
  simp [resetTime]

@[simp] theorem resetTime_components :
    view.resetTime.components = dateComponents view.settings view.selectedDate := by
  simp [resetTime]

@[simp] theorem resetTime_dateTitleLabel :
    view.resetTime.dateTitleLabel = view.dateTitleLabel := by
  simp [resetTime]

@[simp] theorem resetTime_told : view.resetTime.told = view.told := by
  simp [resetTime]

end Frames

/-- The date is at an end of the range, where the observer turns the wheels. -/
def AtEnd (picker : DateTimePicker) : Prop :=
  picker.selectedDate = picker.minimumDate ∨ picker.selectedDate = picker.maximumDate

instance (picker : DateTimePicker) : Decidable (AtEnd picker) :=
  inferInstanceAs (Decidable (_ ∨ _))

section Select

variable (view : PickerView) (date : Instant)

/-- The observer, before it may turn the wheels. -/
def observed : PickerView :=
  { view with
    toDateTimePicker := view.toDateTimePicker.setSelectedDate date
    told := view.told ++ [view.toDateTimePicker.setSelectedDate date]
    dateTitleLabel := (view.toDateTimePicker.setSelectedDate date).selectedDateString }

theorem select_eq :
    view.select date =
      if AtEnd (view.toDateTimePicker.setSelectedDate date) then (view.observed date).resetTime
      else view.observed date := rfl

@[simp] theorem select_toDateTimePicker :
    (view.select date).toDateTimePicker = view.toDateTimePicker.setSelectedDate date := by
  rw [select_eq]
  split
  · rw [resetTime_toDateTimePicker]
    rfl
  · rfl

@[simp] theorem select_face : (view.select date).face = view.face := by
  rw [select_eq]
  split
  · rw [resetTime_face]
    rfl
  · rfl

@[simp] theorem select_dates : (view.select date).dates = view.dates := by
  rw [select_eq]
  split
  · rw [resetTime_dates]
    rfl
  · rfl

@[simp] theorem select_told :
    (view.select date).told = view.told ++ [view.toDateTimePicker.setSelectedDate date] := by
  rw [select_eq]
  split
  · rw [resetTime_told]
    rfl
  · rfl

@[simp] theorem select_dateTitleLabel :
    (view.select date).dateTitleLabel =
      (view.toDateTimePicker.setSelectedDate date).selectedDateString := by
  rw [select_eq]
  split
  · rw [resetTime_dateTitleLabel]
    rfl
  · rfl

variable {view} {date}

@[simp] theorem observed_settings : (view.observed date).settings = view.settings := rfl

@[simp] theorem observed_face : (view.observed date).face = view.face := rfl

@[simp] theorem observed_dates : (view.observed date).dates = view.dates := rfl

@[simp] theorem observed_minimumDate :
    (view.observed date).minimumDate = view.minimumDate := rfl

@[simp] theorem observed_maximumDate :
    (view.observed date).maximumDate = view.maximumDate := rfl

@[simp] theorem observed_selectedDate :
    (view.observed date).selectedDate = clamp view.minimumDate view.maximumDate date :=
  ite_eq_clamp

/-- A date before the range is the minimum date, and the wheels are turned twice. -/
theorem selectComponents_eq (range : view.minimumDate ≤ view.maximumDate) :
    view.selectComponents =
      let view' := view.observed (dateFrom view.settings view.components)
      if dateFrom view.settings view.components < view.minimumDate then view'.resetTime.resetTime
      else if AtEnd view'.toDateTimePicker then view'.resetTime
      else view' := by
  unfold selectComponents
  dsimp only
  split
  · rename_i early
    have same : view.toDateTimePicker.setSelectedDate view.minimumDate =
        view.toDateTimePicker.setSelectedDate (dateFrom view.settings view.components) := by
      have least : ¬ view.minimumDate < view.minimumDate := Int.lt_irrefl _
      simp only [DateTimePicker.setSelectedDate, early, least, if_true, if_false]
    have atEnd : AtEnd (view.toDateTimePicker.setSelectedDate view.minimumDate) :=
      Or.inl (ite_eq_clamp.trans (clamp_of_mem (Int.le_refl _) range))
    rw [select_eq, if_pos atEnd]
    unfold observed
    rw [same]
  · rfl

end Select

/-! ## The parts agree -/

/-- The wheels stand at rows they have, and these read the components. -/
structure Reads (view : PickerView) : Prop where
  inside : ∀ wheel, view.row wheel < view.face.numberOfRows wheel
  hour : view.face.hourOfRow view.amPmRow view.hourRow = view.components.hour
  half : view.face.is12HourFormat = true →
    view.amPmRow = Face.expectedAmPmRow view.components.hour
  minute : view.face.minuteOfRow view.minuteRow =
    view.components.minute / view.face.timeInterval.rawValue * view.face.timeInterval.rawValue
  second : Face.secondOfRow view.secondRow = view.components.second

/-- Only the rows and the time of day are read. -/
theorem Reads.congr {view view' : PickerView} (reads : view.Reads)
    (face : view'.face = view.face) (rows : ∀ wheel, view'.row wheel = view.row wheel)
    (hour : view'.components.hour = view.components.hour)
    (minute : view'.components.minute = view.components.minute)
    (second : view'.components.second = view.components.second) : view'.Reads where
  inside wheel := by
    rw [rows, face]
    exact reads.inside wheel
  hour := by
    have hourRow : view'.hourRow = view.hourRow := rows .hourTableView
    have amPmRow : view'.amPmRow = view.amPmRow := rows .amPmTableView
    rw [face, hourRow, amPmRow, hour]
    exact reads.hour
  half := by
    have amPmRow : view'.amPmRow = view.amPmRow := rows .amPmTableView
    rw [face, amPmRow, hour]
    exact reads.half
  minute := by
    have minuteRow : view'.minuteRow = view.minuteRow := rows .minuteTableView
    rw [face, minuteRow, minute]
    exact reads.minute
  second := by
    have secondRow : view'.secondRow = view.secondRow := rows .secondTableView
    rw [secondRow, second]
    exact reads.second

structure Agrees (view : PickerView) : Prop where
  opened : Opened view.toDateTimePicker
  cells : view.dates = fillDates view.minimumDate view.maximumDate
  components : view.components = dateComponents view.settings view.selectedDate
  reads : view.Reads
  title : view.dateTitleLabel = view.selectedDateString

theorem dayOf_mono (settings : Settings) {t t' : Int} (notLater : t ≤ t') :
    dayOf settings t ≤ dayOf settings t' := by
  unfold dayOf wallMinute
  omega

theorem yearOf_mono {day day' : Int} (notLater : day ≤ day') : yearOf day ≤ yearOf day' := by
  obtain ⟨since, -⟩ := yearOf_spec day
  obtain ⟨-, until_⟩ := yearOf_spec day'
  by_contra earlier
  have starts := yearStart_le (show yearOf day' + 1 ≤ yearOf day by omega)
  omega

/-- The whole range is from year 1 on. -/
theorem Opened.common_of_le {picker : DateTimePicker} (opened : Opened picker) {t : Instant}
    (since : picker.minimumDate ≤ t) : 1 ≤ yearOf (dayOf picker.settings t) :=
  Int.le_trans opened.common (yearOf_mono (dayOf_mono picker.settings since))

theorem Opened.range {picker : DateTimePicker} (opened : Opened picker) :
    picker.minimumDate ≤ picker.maximumDate :=
  Int.le_trans opened.since opened.until_

theorem Opened.common_selectedDate {picker : DateTimePicker} (opened : Opened picker) :
    1 ≤ yearOf (dayOf picker.settings picker.selectedDate) :=
  opened.common_of_le opened.since

/-- Setting the date keeps the range and puts the date in it. -/
theorem Opened.setSelectedDate {picker : DateTimePicker} (opened : Opened picker)
    (date : Instant) : Opened (picker.setSelectedDate date) where
  common := opened.common
  since := (le_clamp opened.range).trans_eq ite_eq_clamp.symm
  until_ := ite_eq_clamp.trans_le clamp_le

/-- **`resetTime` makes the parts agree.** -/
theorem reads_resetTime (view : PickerView)
    (common : 1 ≤ yearOf (dayOf view.settings view.selectedDate)) : view.resetTime.Reads := by
  obtain ⟨-, -, hours, minutes, seconds⟩ := dateComponents_valid common
  refine ⟨fun wheel => ?_, ?_, ?_, ?_, ?_⟩
  · obtain ⟨hour, minute, second, amPm⟩ :=
      @Face.expectedRow_lt view.face _ _ _ hours minutes seconds
    cases wheel with
    | hourTableView => simpa [resetTime, row] using hour
    | minuteTableView => simpa [resetTime, row] using minute
    | secondTableView => simpa [resetTime, row] using second
    | amPmTableView => simpa [resetTime, row] using amPm
  · simp only [resetTime_face, resetTime_components]
    simp only [resetTime, updateCollectionView_face, updateCollectionView_components]
    exact Face.hourOfRow_expected hours
  · intro _
    simp [resetTime]
  · simp only [resetTime_face, resetTime_components]
    simp only [resetTime, updateCollectionView_face, updateCollectionView_components]
    exact Face.minuteOfRow_expected minutes
  · simp only [resetTime_components]
    simp only [resetTime, updateCollectionView_components]
    exact Face.secondOfRow_expected seconds

theorem agrees_resetTime {view : PickerView} (opened : Opened view.toDateTimePicker)
    (cells : view.dates = fillDates view.minimumDate view.maximumDate)
    (title : view.dateTitleLabel = view.selectedDateString) : view.resetTime.Agrees where
  opened := by simpa using opened
  cells := by simpa using cells
  components := by simp
  reads := reads_resetTime view opened.common_selectedDate
  title := by simpa using title

/-- What a turn has written: components of a date there is, that the wheels read. -/
structure Turned (view : PickerView) : Prop where
  opened : Opened view.toDateTimePicker
  cells : view.dates = fillDates view.minimumDate view.maximumDate
  valid : view.components.Valid
  reads : view.Reads

/-- **Setting the date keeps the parts in agreement.** -/
theorem Turned.agrees {view : PickerView} (turned : view.Turned) :
    view.selectComponents.Agrees := by
  have opened : Opened (view.observed (dateFrom view.settings view.components)).toDateTimePicker :=
    turned.opened.setSelectedDate _
  have reset : (view.observed (dateFrom view.settings view.components)).resetTime.Agrees :=
    agrees_resetTime opened turned.cells rfl
  rw [selectComponents_eq turned.opened.range]
  dsimp only
  split
  · exact agrees_resetTime reset.opened reset.cells reset.title
  · split
    · exact reset
    · rename_i inner
      -- inside the range the date is the one made of the components
      have made : (view.observed (dateFrom view.settings view.components)).selectedDate =
          dateFrom view.settings view.components := by
        rw [observed_selectedDate]
        refine clamp_eq_self_of_ne turned.opened.range (fun low => inner (Or.inl ?_))
          (fun high => inner (Or.inr ?_))
        · rw [observed_selectedDate]
          exact low
        · rw [observed_selectedDate]
          exact high
      refine ⟨opened, turned.cells, ?_,
        turned.reads.congr rfl (fun wheel => by cases wheel <;> rfl) rfl rfl rfl, rfl⟩
      rw [made]
      exact (dateComponents_dateFrom turned.valid).symm

/-- The date that is set. -/
theorem selectComponents_selectedDate {view : PickerView}
    (range : view.minimumDate ≤ view.maximumDate) :
    view.selectComponents.selectedDate =
      clamp view.minimumDate view.maximumDate (dateFrom view.settings view.components) := by
  rw [selectComponents_eq range]
  dsimp only
  split
  · simp
  · split
    · simp
    · simp

/-! ## Turning a wheel -/

/-- Two rows of a wheel that are read alike. -/
def Alike (face : Face) (row row' : Nat) : Wheel → Prop
  | .hourTableView => ∀ amPmRow, face.hourOfRow amPmRow row = face.hourOfRow amPmRow row'
  | .minuteTableView => face.minuteOfRow row = face.minuteOfRow row'
  | .secondTableView => Face.secondOfRow row = Face.secondOfRow row'
  | .amPmTableView => row = row'

theorem alike_adjusted (face : Face) (wheel : Wheel) (row : Nat) :
    Alike face (face.adjustedRowForInfiniteScrolling wheel row) row wheel := by
  cases wheel with
  | hourTableView => exact Face.hourOfRow_adjusted
  | minuteTableView => exact Face.minuteOfRow_adjusted
  | secondTableView => exact Face.secondOfRow_adjusted
  | amPmTableView => exact Face.adjusted_amPm

theorem alike_refl (face : Face) (wheel : Wheel) (row : Nat) : Alike face row row wheel := by
  cases wheel with
  | hourTableView => exact fun _ => rfl
  | minuteTableView => exact rfl
  | secondTableView => exact rfl
  | amPmTableView => exact rfl

section Turn

variable {view : PickerView} {wheel : Wheel} {shown row : Nat}

/-- Under an interval the minutes of a row are whole intervals. -/
theorem minuteOfRow_whole (face : Face) (row : Nat) :
    face.minuteOfRow row / face.timeInterval.rawValue * face.timeInterval.rawValue =
      face.minuteOfRow row := by
  rw [Face.minuteOfRow_eq]
  split
  · rename_i scrolls
    simp only [scrolls, MinuteInterval.rawValue, Nat.div_one, Nat.mul_one]
  · rw [Nat.mul_div_cancel _ (Face.rawValue_pos _)]

/-- **A wheel is turned**: the row is selected on it, and read. -/
theorem Agrees.turned (agrees : view.Agrees) (shows : view.face.Shows wheel)
    (inside : shown < view.face.numberOfRows wheel) (inside' : row < view.face.numberOfRows wheel)
    (alike : Alike view.face shown row wheel) :
    ((view.selectRow wheel shown).readRow wheel row).Turned := by
  have valid : view.components.Valid := by
    rw [agrees.components]
    exact dateComponents_valid agrees.opened.common_selectedDate
  obtain ⟨common, civil, hours, minutes, seconds⟩ := valid
  have known : view.amPmRow < 2 := agrees.reads.inside .amPmTableView
  cases wheel with
  | hourTableView =>
      refine ⟨agrees.opened, agrees.cells,
        ⟨common, civil, Face.hourOfRow_lt _, minutes, seconds⟩, fun wheel => ?_, alike _,
        fun twelve => ?_, agrees.reads.minute, agrees.reads.second⟩
      · cases wheel with
        | hourTableView => exact inside
        | minuteTableView => exact agrees.reads.inside .minuteTableView
        | secondTableView => exact agrees.reads.inside .secondTableView
        | amPmTableView => exact known
      · have twelve : view.face.is12HourFormat = true := twelve
        show view.amPmRow = Face.expectedAmPmRow (view.face.hourOfRow view.amPmRow row)
        rw [Face.hourOfRow_eq, if_pos twelve, Face.expectedAmPmRow_hourOfHalf known (by omega)]
  | minuteTableView =>
      refine ⟨agrees.opened, agrees.cells,
        ⟨common, civil, hours, Face.minuteOfRow_lt inside', seconds⟩, fun wheel => ?_,
        agrees.reads.hour, agrees.reads.half, ?_, agrees.reads.second⟩
      · cases wheel with
        | hourTableView => exact agrees.reads.inside .hourTableView
        | minuteTableView => exact inside
        | secondTableView => exact agrees.reads.inside .secondTableView
        | amPmTableView => exact known
      · exact Eq.trans alike (minuteOfRow_whole view.face row).symm
  | secondTableView =>
      refine ⟨agrees.opened, agrees.cells,
        ⟨common, civil, hours, minutes, Face.secondOfRow_lt⟩, fun wheel => ?_,
        agrees.reads.hour, agrees.reads.half, agrees.reads.minute, alike⟩
      cases wheel with
      | hourTableView => exact agrees.reads.inside .hourTableView
      | minuteTableView => exact agrees.reads.inside .minuteTableView
      | secondTableView => exact inside
      | amPmTableView => exact known
  | amPmTableView =>
      obtain rfl : shown = row := alike
      refine ⟨agrees.opened, agrees.cells,
        ⟨common, civil, Face.hourOfHalf_lt hours, minutes, seconds⟩, fun wheel => ?_, ?_,
        fun _ => (Face.expectedAmPmRow_hourOfHalf inside hours).symm, agrees.reads.minute,
        agrees.reads.second⟩
      · cases wheel with
        | hourTableView => exact agrees.reads.inside .hourTableView
        | minuteTableView => exact agrees.reads.inside .minuteTableView
        | secondTableView => exact agrees.reads.inside .secondTableView
        | amPmTableView => exact inside
      · exact Face.hourOfRow_half shows inside agrees.reads.hour

/-- A row that scrolling ends at is a row of the wheel. -/
theorem alignedRow_lt {face : Face} {scrolled : Scrolled}
    (near : ∀ first ∈ scrolled.firstVisibleRow, first ≤ face.numberOfRows wheel) :
    alignedRow face wheel scrolled < face.numberOfRows wheel := by
  obtain ⟨firstVisibleRow, isAboveMiddle⟩ := scrolled
  have some_ : 0 < face.numberOfRows wheel := by
    cases wheel with
    | hourTableView => cases twelve : face.is12HourFormat <;> simp [Face.numberOfRows, twelve]
    | minuteTableView =>
        cases interval : face.timeInterval <;>
          simp [Face.numberOfRows, interval, MinuteInterval.rawValue]
    | secondTableView => exact Nat.succ_pos _
    | amPmTableView => exact Nat.succ_pos _
  by_cases amPm : wheel = .amPmTableView
  · subst amPm
    cases firstVisibleRow <;> cases isAboveMiddle <;> simp [alignedRow, Face.numberOfRows]
  · cases firstVisibleRow with
    | none => simpa [alignedRow, amPm] using some_
    | some first =>
        have near := near first rfl
        simp only [alignedRow, amPm, decide_false]
        split
        · exact Face.adjusted_lt (by omega)
        · rename_i scrolls
          exact Face.adjusted_lt_of_near (by omega) amPm fun minutes =>
            Decidable.byContradiction fun interval => scrolls ⟨minutes, interval⟩

/-- A wheel is turned, and the date made and set. -/
def turnTo (view : PickerView) (wheel : Wheel) (shown row : Nat) : PickerView :=
  ((view.selectRow wheel shown).readRow wheel row).selectComponents

/-- **A cell of the row of days is selected**: the components are of that day, at the same
time. -/
theorem Agrees.turned_item (agrees : view.Agrees) {item : Nat} {date : Instant}
    (cell : view.dates[item]? = some date) : (view.readItem item date).Turned := by
  have valid : view.components.Valid := by
    rw [agrees.components]
    exact dateComponents_valid agrees.opened.common_selectedDate
  obtain ⟨-, -, hours, minutes, seconds⟩ := valid
  rw [agrees.cells] at cell
  obtain ⟨-, since, -⟩ := getElem?_fillDates_eq_some cell
  obtain ⟨common, civil, -, -, -⟩ := dateComponents_valid (agrees.opened.common_of_le since)
  exact ⟨agrees.opened, agrees.cells, ⟨common, civil, hours, minutes, seconds⟩,
    agrees.reads.congr rfl (fun wheel => by cases wheel <;> rfl) rfl rfl rfl⟩

end Turn

/-! ## Every state of a run -/

section Runs

variable {view view' : PickerView} {event : Event}

/-- What an event can do. -/
inductive Effect (view : PickerView) : Event → PickerView → Prop where
  | item {event : Event} {item : Nat} {date : Instant} (cell : view.dates[item]? = some date)
      (event_ : event = .didSelectItemAt item ∨ event = .alignCollectionView item) :
      Effect view event (view.selectItem item date)
  | row {wheel : Wheel} {row : Nat} (shows : view.face.Shows wheel)
      (inside : row < view.face.numberOfRows wheel) :
      Effect view (.didSelectRowAt wheel row)
        (view.turnTo wheel (view.face.adjustedRowForInfiniteScrolling wheel row) row)
  | scrolled {wheel : Wheel} {scrolled : Scrolled} (shows : view.face.Shows wheel)
      (near : ∀ first ∈ scrolled.firstVisibleRow, first ≤ view.face.numberOfRows wheel) :
      Effect view (.alignTableView wheel scrolled)
        (view.turnTo wheel (alignedRow view.face wheel scrolled)
          (alignedRow view.face wheel scrolled))
  | today (now : Instant) : Effect view (.setToday now) (view.setToday now)
  | reset : Effect view .resetTime view.resetTime
  | delayed {item : Nat} {delayed : List Nat} (waiting : view.delayed = item :: delayed) :
      Effect view .selectDelayed { view with dayItem := some item, delayed }

theorem effect_of_step (moved : step view event = some view') : Effect view event view' := by
  cases event with
  | didSelectItemAt item =>
      obtain ⟨date, cell, rfl⟩ := Option.map_eq_some_iff.1 moved
      exact .item cell (Or.inl rfl)
  | alignCollectionView item =>
      obtain ⟨date, cell, rfl⟩ := Option.map_eq_some_iff.1 moved
      exact .item cell (Or.inr rfl)
  | didSelectRowAt wheel row =>
      simp only [step] at moved
      split at moved
      · rename_i can
        cases moved
        exact .row can.1 can.2
      · cases moved
  | alignTableView wheel scrolled =>
      simp only [step] at moved
      split at moved
      · rename_i can
        cases moved
        exact .scrolled can.1 can.2
      · cases moved
  | setToday now =>
      cases moved
      exact .today now
  | resetTime =>
      cases moved
      exact .reset
  | selectDelayed =>
      simp only [step] at moved
      split at moved
      · rename_i waiting
        cases moved
        exact .delayed waiting
      · cases moved

/-- Setting the date, and turning the wheels to it. -/
theorem agrees_setToday (agrees : view.Agrees) (now : Instant) : (view.setToday now).Agrees := by
  have opened : Opened (view.observed now).toDateTimePicker := agrees.opened.setSelectedDate _
  rw [setToday, select_eq]
  split
  · exact agrees_resetTime (by simpa using opened) (by simpa using agrees.cells) (by simp; rfl)
  · exact agrees_resetTime opened agrees.cells rfl

theorem Agrees.of_effect (agrees : view.Agrees) (effect : Effect view event view') :
    view'.Agrees := by
  cases effect with
  | item cell _ => exact (agrees.turned_item cell).agrees
  | row shows inside =>
      exact (agrees.turned shows (Face.adjusted_lt inside) inside (alike_adjusted ..)).agrees
  | scrolled shows near =>
      exact (agrees.turned shows (alignedRow_lt near) (alignedRow_lt near) (alike_refl ..)).agrees
  | today now => exact agrees_setToday agrees now
  | reset => exact agrees_resetTime agrees.opened agrees.cells agrees.title
  | delayed waiting =>
      exact ⟨agrees.opened, agrees.cells, agrees.components,
        agrees.reads.congr rfl (fun wheel => by cases wheel <;> rfl) rfl rfl rfl, agrees.title⟩

@[simp] theorem create_toDateTimePicker (face : Face) (picker : DateTimePicker) :
    (create face picker).toDateTimePicker = picker := by
  simp [create]

@[simp] theorem create_face (face : Face) (picker : DateTimePicker) :
    (create face picker).face = face := by
  simp [create]

@[simp] theorem create_told (face : Face) (picker : DateTimePicker) :
    (create face picker).told = [] := by
  simp [create]

theorem agrees_create (face : Face) {picker : DateTimePicker} (opened : Opened picker) :
    (create face picker).Agrees :=
  agrees_resetTime (by simpa using opened) (by simp) (by simp)

/-- **The parts of the picker agree**, whatever was turned and tapped. -/
theorem agrees_of_reachable (reached : machine.Reachable view) : view.Agrees :=
  reached.invariant (fun _ ⟨face, _, opened, start⟩ => start ▸ agrees_create face opened)
    fun _ _ _ _ agrees _ moved => agrees.of_effect (effect_of_step moved)

end Runs

end PickerView

end Remindify.Date
