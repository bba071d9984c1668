/-
# Date.Wheels -- the wheels of the picker

The time is shown on table views.  The hours, the minutes and the seconds stand on three
times as many rows as there are of them, so that a wheel can be scrolled on and on: a row
near an end is exchanged for one with the same text (`adjustedRowForInfiniteScrolling`).
With an interval the minutes stand on their rows once.

A row is read in two ways, into the text of its cell and into the components of the date.

* `cellText_adjusted`, `adjusted_lt`: the exchanged row has the same text, and is a row of
  the wheel;
* `hourOfRow_expected`, `minuteOfRow_expected`, `secondOfRow_expected`: the rows
  `resetTime` selects read back the time they were selected for.
-/
import Remindify.Theory.Hands
import Remindify.Theory.Numeral

namespace Remindify.Date

open Remindify.Theory.Hands
open Remindify.Theory.Numeral

set_option autoImplicit false

/-- `MinuteInterval`. -/
inductive MinuteInterval where
  | default
  | five
  | ten
  | fifteen
  | twenty
  | thirty
  deriving DecidableEq, Repr

def MinuteInterval.rawValue : MinuteInterval → Nat
  | .default => 1
  | .five => 5
  | .ten => 10
  | .fifteen => 15
  | .twenty => 20
  | .thirty => 30

inductive Wheel where
  | hourTableView
  | minuteTableView
  | secondTableView
  | amPmTableView
  deriving DecidableEq, Repr

/-- The properties of a picker that say which wheels it has. -/
structure Face where
  is12HourFormat : Bool := false
  includesSecond : Bool := false
  timeInterval : MinuteInterval := .default
  deriving DecidableEq, Repr

/-- `String(format: "%02i", n)`. -/
def twoDigits (n : Nat) : String := String.ofList (numeral 2 n)

namespace Face

variable (face : Face)

/-- What `configureView` does not hide. -/
def Shows : Wheel → Prop
  | .hourTableView | .minuteTableView => True
  | .secondTableView => face.includesSecond = true
  | .amPmTableView => face.is12HourFormat = true

instance (wheel : Wheel) : Decidable (face.Shows wheel) := by
  cases wheel <;> unfold Shows <;> infer_instance

/-- `tableView(_:numberOfRowsInSection:)`. -/
def numberOfRows : Wheel → Nat
  | .hourTableView => (if face.is12HourFormat then 12 else 24) * 3
  | .amPmTableView => 2
  | .minuteTableView =>
      if face.timeInterval ≠ .default then 60 / face.timeInterval.rawValue else 60 * 3
  | .secondTableView => 60 * 3

/-- `tableView(_:cellForRowAt:)`. -/
def cellText (wheel : Wheel) (row : Nat) : String :=
  match wheel with
  | .amPmTableView => if row = 0 then "AM" else "PM"
  | .minuteTableView =>
      if face.timeInterval = .default then twoDigits (row % 60)
      else twoDigits (row * face.timeInterval.rawValue)
  | .secondTableView => twoDigits (row % 60)
  | .hourTableView =>
      if face.is12HourFormat then twoDigits (row % 12 + 1) else twoDigits (row % 24)

/-- `adjustedRowForInfiniteScrolling`. -/
def adjustedRowForInfiniteScrolling (wheel : Wheel) (selectedRow : Nat) : Nat :=
  if wheel = .minuteTableView ∧ face.timeInterval ≠ .default then selectedRow
  else
    let numberOfRow := face.numberOfRows wheel
    if selectedRow = 1 then selectedRow + numberOfRow / 3
    else if selectedRow = numberOfRow - 2 then selectedRow - numberOfRow / 3
    else if wheel = .hourTableView ∧ face.is12HourFormat ∧ selectedRow > 12 * 3 - 1 then
      selectedRow - 12
    else if wheel = .hourTableView ∧ ¬ face.is12HourFormat ∧ selectedRow > 24 * 3 - 1 then
      selectedRow - 24
    else if (wheel = .minuteTableView ∨ wheel = .secondTableView) ∧ selectedRow > 60 * 3 - 1 then
      selectedRow - 60
    else selectedRow

/-! ## From rows to components -/

/-- The hour of a row of the hour wheel, under the selected row of the AM/PM wheel. -/
def hourOfRow (amPmRow row : Nat) : Nat :=
  if face.is12HourFormat then
    let hour := if row < 12 then row + 1 else (row - 12) % 12 + 1
    if amPmRow = 0 ∧ hour ≥ 12 then hour - 12
    else if amPmRow = 1 ∧ hour < 12 then hour + 12
    else hour
  else if row < 24 then row else (row - 24) % 24

def minuteOfRow (row : Nat) : Nat :=
  if face.timeInterval = .default then if row < 60 then row else (row - 60) % 60
  else row * face.timeInterval.rawValue

def secondOfRow (row : Nat) : Nat := if row < 60 then row else (row - 60) % 60

/-- The hour once a row of the AM/PM wheel is selected. -/
def hourOfHalf (row hour : Nat) : Nat :=
  if row = 0 ∧ hour ≥ 12 then hour - 12
  else if row = 1 ∧ hour < 12 then hour + 12
  else hour

/-! ## From components to rows -/

/-- The row `resetTime` selects on the hour wheel. -/
def expectedHourRow (hour : Nat) : Nat :=
  if face.is12HourFormat then
    let expectedRow := if hour < 12 then hour + 11 else hour - 1
    -- 12 o'clock stands at the end of the twelve
    if expectedRow = 11 then 23 else expectedRow
  else hour + 24

def expectedAmPmRow (hour : Nat) : Nat := if hour ≥ 12 then 1 else 0

def expectedMinuteRow (minute : Nat) : Nat :=
  let expectedRow := minute / face.timeInterval.rawValue
  if face.timeInterval = .default then if expectedRow = 0 then 120 else expectedRow + 60
  else expectedRow

def expectedSecondRow (second : Nat) : Nat := if second = 0 then 120 else second + 60

/-! ## The same row of another turn -/

theorem rawValue_pos (interval : MinuteInterval) : 0 < interval.rawValue := by
  cases interval <;> decide

/-- An interval divides the hour. -/
theorem rawValue_mul (interval : MinuteInterval) :
    interval.rawValue * (60 / interval.rawValue) = 60 := by
  cases interval <;> decide

variable {face} {wheel : Wheel} {row : Nat}

theorem adjusted_hour :
    face.adjustedRowForInfiniteScrolling .hourTableView row =
      recentre (if face.is12HourFormat then 12 else 24) row := by
  cases twelve : face.is12HourFormat <;>
    simp [adjustedRowForInfiniteScrolling, numberOfRows, recentre, twelve]

theorem adjusted_minute (scrolls : face.timeInterval = .default) :
    face.adjustedRowForInfiniteScrolling .minuteTableView row = recentre 60 row := by
  simp [adjustedRowForInfiniteScrolling, numberOfRows, recentre, scrolls]

theorem adjusted_interval (interval : face.timeInterval ≠ .default) :
    face.adjustedRowForInfiniteScrolling .minuteTableView row = row :=
  if_pos ⟨rfl, interval⟩

theorem adjusted_second :
    face.adjustedRowForInfiniteScrolling .secondTableView row = recentre 60 row := by
  simp [adjustedRowForInfiniteScrolling, numberOfRows, recentre]

/-- AM and PM stand where they are. -/
theorem adjusted_amPm : face.adjustedRowForInfiniteScrolling .amPmTableView row = row := by
  simp [adjustedRowForInfiniteScrolling, numberOfRows]

/-- **The exchanged row has the same text.** -/
theorem cellText_adjusted :
    face.cellText wheel (face.adjustedRowForInfiniteScrolling wheel row) =
      face.cellText wheel row := by
  cases wheel with
  | hourTableView =>
      rw [adjusted_hour]
      cases twelve : face.is12HourFormat <;>
        simp [cellText, twelve, recentre_mod]
  | minuteTableView =>
      by_cases scrolls : face.timeInterval = .default
      · rw [adjusted_minute scrolls]
        simp [cellText, scrolls, recentre_mod]
      · rw [adjusted_interval scrolls]
  | secondTableView =>
      rw [adjusted_second]
      simp [cellText, recentre_mod]
  | amPmTableView => rw [adjusted_amPm]

/-- A row, or one of the two past the end of a wheel that scrolls on, is exchanged for a
row of the wheel. -/
theorem adjusted_lt_of_near (near : row ≤ face.numberOfRows wheel + 1)
    (amPm : wheel ≠ .amPmTableView)
    (scrolls : wheel = .minuteTableView → face.timeInterval = .default) :
    face.adjustedRowForInfiniteScrolling wheel row < face.numberOfRows wheel := by
  cases wheel with
  | hourTableView =>
      rw [adjusted_hour]
      exact recentre_lt (by split <;> decide) near
  | minuteTableView =>
      rw [adjusted_minute (scrolls rfl)]
      simp only [numberOfRows, scrolls rfl, ne_eq, not_true_eq_false, if_false] at near ⊢
      exact recentre_lt (by decide) near
  | secondTableView =>
      rw [adjusted_second]
      exact recentre_lt (by decide) near
  | amPmTableView => exact absurd rfl amPm

theorem adjusted_lt (inside : row < face.numberOfRows wheel) :
    face.adjustedRowForInfiniteScrolling wheel row < face.numberOfRows wheel := by
  by_cases amPm : wheel = .amPmTableView
  · subst amPm
    rwa [adjusted_amPm]
  · by_cases scrolls : wheel = .minuteTableView → face.timeInterval = .default
    · exact adjusted_lt_of_near (by omega) amPm scrolls
    · rw [Classical.not_imp] at scrolls
      obtain ⟨rfl, interval⟩ := scrolls
      rwa [adjusted_interval interval]

/-! ## What a row reads -/

theorem row_mod {count : Nat} :
    (if row < count then row else (row - count) % count) = row % count := by
  split
  · rename_i first
    exact (Nat.mod_eq_of_lt first).symm
  · rename_i later
    exact (Nat.mod_eq_sub_mod (Nat.le_of_not_lt later)).symm

theorem hourOfRow_eq (amPmRow : Nat) :
    face.hourOfRow amPmRow row =
      if face.is12HourFormat then hourOfHalf amPmRow (row % 12 + 1) else row % 24 := by
  have twelve : (if row < 12 then row + 1 else (row - 12) % 12 + 1) = row % 12 + 1 := by
    split <;> omega
  unfold hourOfRow hourOfHalf
  rw [twelve, row_mod]

theorem minuteOfRow_eq :
    face.minuteOfRow row =
      if face.timeInterval = .default then row % 60 else row * face.timeInterval.rawValue := by
  rw [minuteOfRow, row_mod]

theorem secondOfRow_eq : secondOfRow row = row % 60 := row_mod

/-- A cell says what its row is read as: the hour of the 24. -/
theorem cellText_hour (whole : face.is12HourFormat = false) (amPmRow : Nat) :
    face.cellText .hourTableView row = twoDigits (face.hourOfRow amPmRow row) := by
  simp [cellText, hourOfRow_eq, whole]

theorem cellText_minute :
    face.cellText .minuteTableView row = twoDigits (face.minuteOfRow row) := by
  rw [minuteOfRow_eq]
  simp only [cellText]
  split <;> rfl

theorem hourOfRow_adjusted (amPmRow : Nat) :
    face.hourOfRow amPmRow (face.adjustedRowForInfiniteScrolling .hourTableView row) =
      face.hourOfRow amPmRow row := by
  rw [adjusted_hour, hourOfRow_eq, hourOfRow_eq]
  cases face.is12HourFormat <;> simp [recentre_mod]

theorem minuteOfRow_adjusted :
    face.minuteOfRow (face.adjustedRowForInfiniteScrolling .minuteTableView row) =
      face.minuteOfRow row := by
  by_cases scrolls : face.timeInterval = .default
  · rw [adjusted_minute scrolls, minuteOfRow_eq, minuteOfRow_eq, if_pos scrolls, if_pos scrolls,
      recentre_mod (by decide)]
  · rw [adjusted_interval scrolls]

theorem secondOfRow_adjusted :
    secondOfRow (face.adjustedRowForInfiniteScrolling .secondTableView row) = secondOfRow row := by
  rw [adjusted_second, secondOfRow_eq, secondOfRow_eq, recentre_mod (by decide)]

theorem hourOfHalf_lt {hour : Nat} (hours : hour < 24) : hourOfHalf row hour < 24 := by
  unfold hourOfHalf
  split_ifs <;> omega

theorem hourOfRow_lt (amPmRow : Nat) : face.hourOfRow amPmRow row < 24 := by
  rw [hourOfRow_eq]
  split
  · exact hourOfHalf_lt (by omega)
  · exact Nat.mod_lt _ (by decide)

theorem minuteOfRow_lt (inside : row < face.numberOfRows .minuteTableView) :
    face.minuteOfRow row < 60 := by
  rw [minuteOfRow_eq]
  split
  · exact Nat.mod_lt _ (by decide)
  · rename_i interval
    simp only [numberOfRows, interval, ne_eq, not_false_eq_true, if_true] at inside
    calc row * face.timeInterval.rawValue
        < 60 / face.timeInterval.rawValue * face.timeInterval.rawValue :=
          Nat.mul_lt_mul_of_pos_right inside (rawValue_pos _)
      _ ≤ 60 := Nat.div_mul_le_self ..

theorem secondOfRow_lt : secondOfRow row < 60 := by
  rw [secondOfRow_eq]
  exact Nat.mod_lt _ (by decide)

/-! ## Rows for a time -/

/-- **The row for an hour reads that hour.** -/
theorem hourOfRow_expected {hour : Nat} (hours : hour < 24) :
    face.hourOfRow (expectedAmPmRow hour) (face.expectedHourRow hour) = hour := by
  have row : face.is12HourFormat = true →
      face.expectedHourRow hour % 12 + 1 = if hour % 12 = 0 then 12 else hour % 12 := by
    intro twelve
    simp only [expectedHourRow, twelve, if_true]
    split_ifs <;> omega
  rw [hourOfRow_eq]
  split
  · rename_i twelve
    rw [row twelve]
    unfold hourOfHalf expectedAmPmRow
    by_cases noon : hour ≥ 12
    · simp only [noon, if_true, Nat.one_ne_zero, false_and, if_false, true_and]
      split_ifs <;> omega
    · simp only [noon, if_false, Nat.zero_ne_one, false_and, true_and]
      split_ifs <;> omega
  · rename_i whole
    rw [expectedHourRow, if_neg whole]
    omega

/-- **The row for a minute reads the minute**, or the last one before it that the wheel
has. -/
theorem minuteOfRow_expected {minute : Nat} (minutes : minute < 60) :
    face.minuteOfRow (face.expectedMinuteRow minute) =
      minute / face.timeInterval.rawValue * face.timeInterval.rawValue := by
  rw [minuteOfRow_eq, expectedMinuteRow]
  by_cases scrolls : face.timeInterval = .default
  · simp only [scrolls, MinuteInterval.rawValue, if_true]
    split <;> omega
  · simp only [scrolls, if_false]

/-- **The row for a second reads that second.** -/
theorem secondOfRow_expected {second : Nat} (seconds : second < 60) :
    secondOfRow (expectedSecondRow second) = second := by
  rw [secondOfRow_eq, expectedSecondRow]
  split <;> omega

/-- The rows for a time are rows of their wheels. -/
theorem expectedRow_lt {hour minute second : Nat} (hours : hour < 24) (minutes : minute < 60)
    (seconds : second < 60) :
    face.expectedHourRow hour < face.numberOfRows .hourTableView ∧
      face.expectedMinuteRow minute < face.numberOfRows .minuteTableView ∧
        expectedSecondRow second < face.numberOfRows .secondTableView ∧
          expectedAmPmRow hour < face.numberOfRows .amPmTableView := by
  refine ⟨?_, ?_, ?_, ?_⟩
  · unfold expectedHourRow
    dsimp only [numberOfRows]
    split_ifs <;> omega
  · unfold expectedMinuteRow
    by_cases scrolls : face.timeInterval = .default
    · simp only [numberOfRows, scrolls, MinuteInterval.rawValue, ne_eq, not_true_eq_false, if_true,
        if_false]
      split <;> omega
    · simp only [numberOfRows, scrolls, ne_eq, not_false_eq_true, if_true, if_false]
      rw [Nat.div_lt_iff_lt_mul (rawValue_pos _), Nat.mul_comm, rawValue_mul]
      exact minutes
  · unfold expectedSecondRow
    dsimp only [numberOfRows]
    split <;> omega
  · unfold expectedAmPmRow
    dsimp only [numberOfRows]
    split <;> omega

/-- Under the AM row the hours before noon, under the PM row the others. -/
theorem expectedAmPmRow_hourOfHalf {hour : Nat} (known : row < 2) (hours : hour < 24) :
    expectedAmPmRow (hourOfHalf row hour) = row := by
  unfold expectedAmPmRow hourOfHalf
  split_ifs <;> omega

/-- An hour of the twelve, in the half of the day it is now. -/
theorem hourOfHalf_expected {hour twelve : Nat} (hours : hour < 24) (first : 1 ≤ twelve)
    (last : twelve ≤ 12) :
    hourOfHalf (expectedAmPmRow hour) twelve = hour / 12 * 12 + twelve % 12 := by
  unfold expectedAmPmRow hourOfHalf
  by_cases noon : hour ≥ 12
  · simp only [noon, if_true, Nat.one_ne_zero, false_and, if_false, true_and]
    split_ifs <;> omega
  · simp only [noon, if_false, Nat.zero_ne_one, false_and, true_and]
    split_ifs <;> omega

/-- The same hour of the twelve in either half. -/
theorem hourOfHalf_eq {hour : Nat} (known : row < 2) (hours : hour < 24) :
    hourOfHalf row hour = hour % 12 + 12 * row := by
  unfold hourOfHalf
  split_ifs <;> omega

/-- The other half of the day, under the same row of the hour wheel. -/
theorem hourOfRow_half {amPmRow amPmRow' hour : Nat} (twelve : face.is12HourFormat = true)
    (known' : amPmRow' < 2) (reads : face.hourOfRow amPmRow row = hour) :
    face.hourOfRow amPmRow' row = hourOfHalf amPmRow' hour := by
  rw [hourOfRow_eq, if_pos twelve] at reads ⊢
  subst reads
  unfold hourOfHalf
  split_ifs <;> omega

end Face

end Remindify.Date
