/-
# Date.DateTimePicker -- the picker both screens show

`Pods/DateTimePicker`, as far as the app uses it.  A picker starts at the time it is
created; setting `selectedDate` moves the date into the range of the picker and then
tells the delegate.  Done calls `completionHandler`, Cancel and a tap outside do not.

Nothing in the app changes `dateFormat`, whose default asks for the year of the week.
-/
import Remindify.Date.Formatter

namespace Remindify.Date

set_option autoImplicit false

structure DateTimePicker where
  settings : Settings
  minimumDate : Instant
  maximumDate : Instant
  selectedDate : Instant
  deriving DecidableEq

namespace DateTimePicker

/-- `dateFormat`, at its default. -/
def dateFormat : String := "HH:mm dd/MM/YYYY"

/-- `create(minimumDate:maximumDate:)`, at a time. -/
def create (settings : Settings) (now minimumDate maximumDate : Instant) : DateTimePicker :=
  { settings, minimumDate, maximumDate, selectedDate := now }

variable (picker : DateTimePicker)

/-- `selectedDate` is set; its observer keeps it in range. -/
def setSelectedDate (date : Instant) : DateTimePicker :=
  let selectedDate := if date < picker.minimumDate then picker.minimumDate else date
  let selectedDate :=
    if picker.maximumDate < selectedDate then picker.maximumDate else selectedDate
  { picker with selectedDate }

def selectedDateString : String :=
  { dateFormat, settings := picker.settings : DateFormatter }.string picker.selectedDate

@[simp] theorem setSelectedDate_settings (date : Instant) :
    (picker.setSelectedDate date).settings = picker.settings := rfl

/-- A date in range is taken as it is. -/
theorem setSelectedDate_of_inRange {date : Instant} (since : picker.minimumDate ≤ date)
    (until_ : date ≤ picker.maximumDate) :
    (picker.setSelectedDate date).selectedDate = date := by
  have low : ¬ date < picker.minimumDate := Int.not_lt.2 since
  have high : ¬ picker.maximumDate < date := Int.not_lt.2 until_
  simp only [setSelectedDate, low, high, if_false]

end DateTimePicker

end Remindify.Date
