/-
# Date.RoundTrip -- the date strings of the two screens

The Add screen stores `selectedDateString` of the picker, written with the picker's
own format; the Edit screen formats the picked date itself and reads every date string
with the same format.  The two formats differ in one letter, `YYYY` for `yyyy`.

* `selectedDateString_eq_iff`: what the picker writes is what the Edit screen would
  write when the week's year is the calendar year;
* `roundTrips_iff`: the exact days on which the strings agree and read back, for every
  week rule and time zone;
* `newYearsEve_lost`: 30 December 2024, with weeks from Sunday on.
-/
import Remindify.Date.DateTimePicker

namespace Remindify.Date

open Remindify.Theory.Gregorian
open Remindify.Theory.Pattern

set_option autoImplicit false

/-- The formatter of the Edit screen once it has its format, as in `dateButtonTapped`
and `scheduleAlarmNotification`. -/
def dateFormatter (settings : Settings) : DateFormatter :=
  { dateFormat := "HH:mm dd/MM/yyyy", settings }

/-- **The date strings agree and read back**: what is stored for the picked date is
what the Edit screen would store for it, and it is parsed to that date, to the minute. -/
def RoundTrips (picker : DateTimePicker) : Prop :=
  picker.selectedDateString = (dateFormatter picker.settings).string picker.selectedDate ∧
    (dateFormatter picker.settings).date picker.selectedDateString =
      some (truncateToMinute picker.selectedDate)

/-- The picker's format, by the letters of the app's. -/
def weekYearForYear : Field → Field
  | .year => .weekYear
  | field => field

theorem dateFormatter_pattern (settings : Settings) :
    (dateFormatter settings).pattern =
      [.field .hour 2, .literal ':', .field .minute 2, .literal ' ', .field .day 2,
        .literal '/', .field .month 2, .literal '/', .field .year 4] :=
  DateFormatter.pattern_of_format rfl

/-- The text of the picker is that of the app's format, the year of the week in the
place of the year. -/
theorem selectedDateString_eq (picker : DateTimePicker) :
    picker.selectedDateString =
      String.ofList (render (fun field =>
        value picker.settings picker.selectedDate (weekYearForYear field))
        (dateFormatter picker.settings).pattern) := by
  have pattern : compile DateTimePicker.dateFormat.toList =
      (dateFormatter picker.settings).pattern.map (Item.rename weekYearForYear) := by
    rw [dateFormatter_pattern]
    rfl
  rw [← render_rename, ← pattern]
  rfl

/-- **When two dates are written alike on the two screens**: same minute, day and
month, and the year of the one's week is the year of the other. -/
theorem selectedDateString_eq_iff (picker : DateTimePicker) (t : Instant) :
    picker.selectedDateString = (dateFormatter picker.settings).string t ↔
      (∀ field ∈ [Field.hour, .minute, .day, .month],
        value picker.settings picker.selectedDate field = value picker.settings t field) ∧
      value picker.settings picker.selectedDate .weekYear = value picker.settings t .year := by
  rw [selectedDateString_eq, DateFormatter.string, String.ofList_inj, dateFormatter_pattern,
    render_eq_render (by rfl)]
  simp only [fields, List.forall_mem_cons, List.not_mem_nil, false_implies, implies_true,
    and_true, and_assoc, weekYearForYear, dateFormatter]

section RoundTrips

variable (picker : DateTimePicker)

/-- The year before the era turns is never read back. -/
theorem yearOf_of_date (back : (dateFormatter picker.settings).date picker.selectedDateString =
    some (truncateToMinute picker.selectedDate)) :
    1 ≤ yearOf (dayOf picker.settings picker.selectedDate) := by
  have year := DateFormatter.date_year back
  rw [dayOf_truncateToMinute] at year
  exact year

theorem roundTrips_iff_weekYearOf :
    RoundTrips picker ↔
      1 ≤ yearOf (dayOf picker.settings picker.selectedDate) ∧
        weekYearOf picker.settings.weekRule (dayOf picker.settings picker.selectedDate) =
          yearOf (dayOf picker.settings picker.selectedDate) := by
  have same := selectedDateString_eq_iff picker picker.selectedDate
  simp only [value, yearOfEra] at same
  constructor
  · rintro ⟨agree, back⟩
    have common := yearOf_of_date picker back
    have weeks := (same.1 agree).2
    rw [if_pos common] at weeks
    exact ⟨common, weeks⟩
  · rintro ⟨common, weeks⟩
    rw [if_pos common] at same
    have agree := same.2 ⟨fun _ _ => trivial, weeks⟩
    refine ⟨agree, ?_⟩
    rw [agree]
    exact DateFormatter.date_string rfl common

/-- **When the date strings round-trip**: exactly when the picked day is in year 1 or
later, in a week counted in its own calendar year. -/
theorem roundTrips_iff :
    RoundTrips picker ↔
      let day := dayOf picker.settings picker.selectedDate
      1 ≤ yearOf day ∧ firstWeek picker.settings.weekRule (yearOf day) ≤ day ∧
        day < firstWeek picker.settings.weekRule (yearOf day + 1) := by
  rw [roundTrips_iff_weekYearOf, weekYearOf_eq_iff]

/-- So it is on every day from 7 January to 25 December, under every week rule. -/
theorem roundTrips_of_inner
    (common : 1 ≤ yearOf (dayOf picker.settings picker.selectedDate))
    (january : yearStart (yearOf (dayOf picker.settings picker.selectedDate)) + 6 ≤
      dayOf picker.settings picker.selectedDate)
    (december : dayOf picker.settings picker.selectedDate + 6 <
      yearStart (yearOf (dayOf picker.settings picker.selectedDate) + 1)) :
    RoundTrips picker := by
  rw [roundTrips_iff_weekYearOf]
  exact ⟨common, weekYearOf_eq_of_inner _ january december⟩

end RoundTrips

/-- GMT; weeks begin on Sunday, and the first week of a year is the one with 1 January. -/
def greenwich : Settings where
  minutesFromGMT := 0
  weekRule := ⟨1, 1, by decide, by decide⟩

/-- The picker at 09:00 on 30 December 2024. -/
def newYearsEve : DateTimePicker where
  settings := greenwich
  minimumDate := 1735200000
  maximumDate := 1735891200
  selectedDate := 1735549200

/-- The Add screen stores the following year. -/
theorem newYearsEve_lost : ¬ ∀ picker : DateTimePicker, RoundTrips picker := by
  intro always
  have agree := (selectedDateString_eq_iff newYearsEve _).1 (always newYearsEve).1
  exact absurd agree.2 (by decide)

end Remindify.Date
