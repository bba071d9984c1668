/-
# Date.Lookup -- the cell a date is looked up to

The row of days highlights a cell.  After `resetTime` the cell of the date is looked up by
its short text (`updateCollectionView`), and the first cell with that text is taken.

* `finds_edit_iff`: the Edit screen, whose range is a year, finds the right cell for every
  date unless today and the same date next year have one text;
* `finds_add`: the Add screen always finds it.
-/
import Remindify.Date.Clock

namespace Remindify.Date

open Remindify.Theory
open Remindify.Theory.Clamp
open Remindify.Theory.Gregorian

set_option autoImplicit false

/-! ## The right cell -/

section Finds

variable {settings : Settings} {fromDate toDate now : Int}

/-- The cell is of the day of the date. -/
def OfDay (settings : Settings) (dates : List Instant) (item : Nat) (t : Instant) : Prop :=
  ∃ cell, dates[item]? = some cell ∧ dayOf settings cell = dayOf settings t

/-- Every date of the range is looked up to the cell of its day. -/
def Finds (settings : Settings) (fromDate toDate : Instant) : Prop :=
  ∀ t, fromDate ≤ t → t ≤ toDate → ∃ item,
    indexOf settings (fillDates fromDate toDate) t = some item ∧
      OfDay settings (fillDates fromDate toDate) item t

theorem ofDay_of_offers {t : Instant} (offered : Offers settings (fillDates fromDate toDate)
    (dayOf settings t)) : ∃ item, OfDay settings (fillDates fromDate toDate) item t := by
  obtain ⟨cell, member, day⟩ := offered
  obtain ⟨item, at_⟩ := List.getElem?_of_mem member
  exact ⟨item, cell, at_, day⟩

/-- Nine days: all texts are different. -/
theorem finds_add :
    Finds settings (now + -60 * 60 * 24 * 4 : Int) (now + 60 * 60 * 24 * 4 : Int) := by
  intro t since until_
  obtain ⟨item, cell, at_, day⟩ := ofDay_of_offers (PickerView.offers_add since until_)
  exact ⟨item, indexOf_of_short at_ day (by omega), cell, at_, day⟩

/-! ### A year ahead -/

/-- Of two years that follow each other one is a common year. -/
theorem yearLength_add_le (year : Int) : yearLength year + yearLength (year + 1) ≤ 731 := by
  unfold yearLength isLeap
  simp only [Bool.and_eq_true, Bool.or_eq_true, Bool.not_eq_true', decide_eq_true_eq,
    decide_eq_false_iff_not]
  split
  · split <;> omega
  · split <;> omega

/-- The date a year ahead is 366 days later at most, and then it is the same date. -/
theorem yearLater_days :
    dayOf settings (yearLater settings now) - dayOf settings now ≤ 366 ∧
      (dayOf settings (yearLater settings now) - dayOf settings now = 366 →
        (civilOf (dayOf settings (yearLater settings now))).month =
            (civilOf (dayOf settings now)).month ∧
          (civilOf (dayOf settings (yearLater settings now))).day =
            (civilOf (dayOf settings now)).day) := by
  have bounds := civilOf_bounds (dayOf settings now)
  have number := dayNumber_civilOf (dayOf settings now)
  obtain ⟨date, today⟩ : ∃ date, civilOf (dayOf settings now) = date := ⟨_, rfl⟩
  rw [today] at bounds number
  have month := monthLength_ge (date.year + 1) bounds.1 bounds.2.1
  have lengths := start_monthLengths_le (date.year + 1) date.year (date.month - 1) (by omega)
  have years := yearLength_add_le date.year
  have next := yearStart_succ date.year
  obtain ⟨later, named⟩ : ∃ later : Civil, later = { date with
    year := date.year + 1, day := min date.day (monthLength (date.year + 1) date.month) } :=
    ⟨_, rfl⟩
  have valid : later.Valid := by
    subst named
    exact ⟨bounds.1, by dsimp only; omega, by dsimp only; omega⟩
  have ahead : dayOf settings (yearLater settings now) = dayNumber later := by
    have moved : yearLater settings now = now + (dayNumber later - dayOf settings now) * 86400 := by
      rw [named, ← today]
      rfl
    rw [moved]
    unfold dayOf wallMinute
    omega
  rw [ahead, civilOf_dayNumber valid, today]
  simp only [dayNumber] at number ⊢
  subst named
  dsimp only at valid ⊢
  refine ⟨by omega, fun longest => ⟨rfl, by omega⟩⟩

/-- With a leap day within a year, only its ends are of one date: else neighbouring days
would be. -/
theorem whole_of_leap {day : Int} {j item : Nat}
    (sameMonth : (civilOf (day + 366)).month = (civilOf day).month)
    (sameDay : (civilOf (day + 366)).day = (civilOf day).day) (year : j + 365 ≤ item)
    (within : item ≤ 366) (months : (civilOf (day + j)).month = (civilOf (day + item)).month)
    (days : (civilOf (day + j)).day = (civilOf (day + item)).day) : j = 0 ∧ item = 366 := by
  rcases Nat.eq_zero_or_pos j with rfl | later
  · refine ⟨rfl, ?_⟩
    by_contra short
    obtain rfl : item = 365 := by omega
    simp only [Int.natCast_zero, Int.add_zero] at months days
    have neighbours := add_365_le (show day + (365 : Nat) < day + 366 by omega)
      (months.symm.trans sameMonth.symm) (days.symm.trans sameDay.symm)
    omega
  · obtain ⟨rfl, rfl⟩ : j = 1 ∧ item = 366 := by omega
    have neighbours := add_365_le (show day < day + (1 : Nat) by omega)
      (sameMonth.symm.trans months.symm) (sameDay.symm.trans days.symm)
    omega

/-- **When the Edit screen finds the right cell**: for every date of its range, unless today
and the date a year ahead have one text. -/
theorem finds_edit_iff :
    Finds settings now (yearLater settings now) ↔
      dayString settings now ≠ dayString settings (yearLater settings now) := by
  have fourDays : now + 60 * 60 * 24 * 4 ≤ yearLater settings now := fourDays_le_yearLater ..
  have today : addingDays 0 now = now := by simp [addingDays]
  constructor
  · intro finds alike
    obtain ⟨item, found, cell, at_, day⟩ := finds (yearLater settings now)
      (show now ≤ yearLater settings now by omega) (Int.le_refl _)
    have first := (indexOf_eq_iff at_ day).1 found
    cases item with
    | zero =>
        rw [getElem?_fillDates_eq_some at_ |>.1, today] at day
        have later : dayOf settings (now + 60 * 60 * 24 * 4) ≤
            dayOf settings (yearLater settings now) := PickerView.dayOf_mono settings fourDays
        have fourth : dayOf settings (now + 60 * 60 * 24 * 4) = dayOf settings now + 4 := by
          unfold dayOf wallMinute
          omega
        omega
    | succ item =>
        refine first 0 (Nat.succ_pos item) ?_
        rw [today, alike]
  · intro apart t since until_
    obtain ⟨item, cell, at_, day⟩ := ofDay_of_offers (PickerView.offers_edit since until_)
    refine ⟨item, (indexOf_eq_iff at_ day).2 fun j below alike => ?_, cell, at_, day⟩
    have place : dayOf settings t = dayOf settings now + item := by
      rw [← day, (getElem?_fillDates_eq_some at_).1, dayOf_addingDays]
    have last : dayOf settings t ≤ dayOf settings (yearLater settings now) :=
      PickerView.dayOf_mono settings until_
    obtain ⟨most, sameDate⟩ := @yearLater_days settings now
    obtain ⟨days, months, -⟩ := dayString_eq_iff.1 alike
    simp only [value, dayOf_addingDays, place] at days months
    have year : dayOf settings now + j + 365 ≤ dayOf settings now + item :=
      add_365_le (by omega) (by omega) (by omega)
    have whole : j = 0 ∧ dayOf settings t = dayOf settings (yearLater settings now) := by
      by_contra short
      obtain ⟨sameMonth, sameDay⟩ := sameDate (by omega)
      have longest : dayOf settings (yearLater settings now) = dayOf settings now + 366 := by omega
      rw [longest] at sameMonth sameDay
      obtain ⟨rfl, rfl⟩ := whole_of_leap sameMonth sameDay (by omega : j + 365 ≤ item) (by omega)
        (by omega) (by omega)
      exact short ⟨rfl, by omega⟩
    rw [whole.1, today, dayString_congr whole.2] at alike
    exact apart alike

/-- 26 December 2027, a Sunday: its week is the first of 2028, as is none of the week of
26 December 2028 but the year is 2028 all the same. -/
theorem boxingDay_confused :
    ¬ Finds greenwich 1829811600 (yearLater greenwich 1829811600) := by
  rw [finds_edit_iff, not_not, dayString_eq_iff]
  decide

end Finds

end Remindify.Date
