/-
# Date.Formatter -- `DateFormatter` for the formats of the app

Foundation is outside the repository; this is the part of its documented behaviour
the app relies on: a format is a pattern of Unicode TR35, whose letters are fields of
the Gregorian calendar and whose other characters stand for themselves.  `y` is the
year of the calendar, counted within its era; `Y` is the year the week is counted in.

An instant is the whole seconds since 1 January 1970 in GMT.  The time zone is a fixed
number of minutes.

* `date_string`: `HH:mm dd/MM/yyyy` reads back what it wrote, to the minute, from year
  1 on;
* `date_year`: what is read is never before year 1, as the era is not written.
-/
import Remindify.Theory.Gregorian
import Remindify.Theory.Pattern

namespace Remindify.Date

open Remindify.Theory.Gregorian
open Remindify.Theory.Pattern

set_option autoImplicit false

/-- A `Date`, in whole seconds since 1970.  No formatter or calendar component of the pickers
reads the fraction of a second; the ends of a range, which come from `Date()` with one, are
whole here as well, so that a date read off the wheels may be an end. -/
abbrev Instant := Int

/-- What a formatter takes from the device: its time zone and the weeks of its
locale. -/
structure Settings where
  minutesFromGMT : Int
  weekRule : WeekRule
  deriving DecidableEq

/-! ## The fields of an instant -/

/-- The letters of the formats. -/
inductive Field where
  | hour
  | minute
  | day
  | month
  | year
  | weekYear
  deriving DecidableEq, Repr

/-- The day 1 January 1970 is. -/
def epoch : Int := 719162

section Wall

variable (settings : Settings) (t : Instant)

/-- Minutes since the epoch on the clock of the time zone. -/
def wallMinute : Int := t / 60 + settings.minutesFromGMT

def dayOf : Int := wallMinute settings t / 1440 + epoch

/-- Years before year 1 count backwards. -/
def yearOfEra (year : Int) : Int := if 1 ≤ year then year else 1 - year

def value : Field → Int
  | .hour => wallMinute settings t % 1440 / 60
  | .minute => wallMinute settings t % 60
  | .day => (civilOf (dayOf settings t)).day
  | .month => (civilOf (dayOf settings t)).month
  | .year => yearOfEra (yearOf (dayOf settings t))
  | .weekYear => weekYearOf settings.weekRule (dayOf settings t)

/-- The beginning of the minute. -/
def truncateToMinute : Instant := t - t % 60

end Wall

/-- The instant a date and a time of day are, on the clock of the time zone. -/
def instantOf (settings : Settings) (date : Civil) (hour minute : Nat) : Instant :=
  ((dayNumber date - epoch) * 1440 + hour * 60 + minute - settings.minutesFromGMT) * 60

/-! ## Formats -/

def symbol : Char → Option Field
  | 'H' => some .hour
  | 'm' => some .minute
  | 'd' => some .day
  | 'M' => some .month
  | 'y' => some .year
  | 'Y' => some .weekYear
  | _ => none

/-- The pattern of a format: a letter repeated is one field, of that many digits. -/
def compile : List Char → List (Item Field)
  | [] => []
  | c :: rest =>
      match symbol c, compile rest with
      | none, items => .literal c :: items
      | some field, .field name width :: items =>
          if field = name then .field field (width + 1) :: items
          else .field field 1 :: .field name width :: items
      | some field, items => .field field 1 :: items

structure DateFormatter where
  dateFormat : String
  settings : Settings

namespace DateFormatter

variable (formatter : DateFormatter)

def pattern : List (Item Field) := compile formatter.dateFormat.toList

def string (t : Instant) : String :=
  String.ofList (render (value formatter.settings t) formatter.pattern)

/-- `date(from:)`, for a format with a whole date and time of day.  A date that does
not exist is refused. -/
def date (text : String) : Option Instant :=
  match read formatter.pattern text.toList with
  | some values =>
      match values.lookup .year, values.lookup .month, values.lookup .day, values.lookup .hour,
        values.lookup .minute with
      | some year, some month, some day, some hour, some minute =>
          let date : Civil := ⟨year, month, day⟩
          if 1 ≤ year ∧ date.Valid ∧ hour < 24 ∧ minute < 60 then
            some (instantOf formatter.settings date hour minute)
          else none
      | _, _, _, _, _ => none
  | none => none

end DateFormatter

/-! ## Clock and calendar -/

section Wall

variable (settings : Settings)

theorem value_bounds (t : Instant) :
    (0 ≤ value settings t .hour ∧ value settings t .hour < 24) ∧
      (0 ≤ value settings t .minute ∧ value settings t .minute < 60) ∧
      (1 ≤ value settings t .day ∧ value settings t .day ≤ 31) ∧
      (1 ≤ value settings t .month ∧ value settings t .month ≤ 12) ∧
      1 ≤ value settings t .year := by
  have dates := civilOf_bounds (dayOf settings t)
  refine ⟨?_, ?_, ?_, ?_, ?_⟩
  · simp only [value]
    omega
  · simp only [value]
    omega
  · simp only [value]
    omega
  · simp only [value]
    omega
  · simp only [value, yearOfEra]
    split <;> omega

/-- The clock shows what an instant was made of. -/
theorem dayOf_instantOf (date : Civil) {hour minute : Nat} (hours : hour < 24)
    (minutes : minute < 60) : dayOf settings (instantOf settings date hour minute) =
      dayNumber date := by
  unfold dayOf wallMinute instantOf
  omega

theorem dayOf_truncateToMinute (t : Instant) :
    dayOf settings (truncateToMinute t) = dayOf settings t := by
  unfold dayOf wallMinute truncateToMinute
  omega

/-- **An instant is its date and time of day**, to the minute. -/
theorem instantOf_value (t : Instant) :
    instantOf settings (civilOf (dayOf settings t)) (value settings t .hour).toNat
      (value settings t .minute).toNat = truncateToMinute t := by
  have hours := (value_bounds settings t).1
  have minutes := (value_bounds settings t).2.1
  unfold instantOf
  rw [dayNumber_civilOf, Int.toNat_of_nonneg hours.1, Int.toNat_of_nonneg minutes.1]
  simp only [value]
  unfold dayOf wallMinute truncateToMinute
  show (_ : Int) = _
  omega

end Wall

/-! ## Writing and reading -/

namespace DateFormatter

variable {formatter : DateFormatter}

/-- What is read is from year 1 on. -/
theorem date_year {text : String} {t : Instant} (read_ : formatter.date text = some t) :
    1 ≤ yearOf (dayOf formatter.settings t) := by
  unfold date at read_
  split at read_
  · split at read_
    · rename_i year month day hour minute _ _ _ _ _
      dsimp only at read_
      split at read_
      · rename_i legal
        cases read_
        obtain ⟨since, valid, hours, minutes⟩ := legal
        rw [dayOf_instantOf _ _ hours minutes]
        have civil := congrArg Civil.year (civilOf_dayNumber valid)
        simp only [civilOf] at civil
        omega
      · cases read_
    · cases read_
  · cases read_

/-- What is made of the fields that were read. -/
theorem date_eq {text : String} {values : List (Field × Nat)} {year month day hour minute : Nat}
    {pattern_ : List (Item Field)} (compiled : formatter.pattern = pattern_)
    (read_ : read pattern_ text.toList = some values)
    (years : values.lookup .year = some year) (months : values.lookup .month = some month)
    (days : values.lookup .day = some day) (hours : values.lookup .hour = some hour)
    (minutes : values.lookup .minute = some minute) :
    formatter.date text =
      if 1 ≤ year ∧ (⟨year, month, day⟩ : Civil).Valid ∧ hour < 24 ∧ minute < 60 then
        some (instantOf formatter.settings ⟨year, month, day⟩ hour minute)
      else none := by
  simp only [date, compiled, read_, years, months, days, hours, minutes]

theorem pattern_of_format (format : formatter.dateFormat = "HH:mm dd/MM/yyyy") :
    formatter.pattern =
      [.field .hour 2, .literal ':', .field .minute 2, .literal ' ', .field .day 2,
        .literal '/', .field .month 2, .literal '/', .field .year 4] := by
  rw [pattern, format]
  rfl

/-- **The format of the app reads back what it wrote**, to the minute. -/
theorem date_string (format : formatter.dateFormat = "HH:mm dd/MM/yyyy") {t : Instant}
    (common : 1 ≤ yearOf (dayOf formatter.settings t)) :
    formatter.date (formatter.string t) = some (truncateToMinute t) := by
  have compiled := pattern_of_format format
  obtain ⟨hours, minutes, days, months, years⟩ := value_bounds formatter.settings t
  have nonneg : ∀ name ∈ fields formatter.pattern, 0 ≤ value formatter.settings t name := by
    rw [compiled]
    intro name member
    simp only [fields, List.mem_cons, List.not_mem_nil, or_false] at member
    rcases member with rfl | rfl | rfl | rfl | rfl <;> omega
  have back : read formatter.pattern (formatter.string t).toList =
      some ((fields formatter.pattern).map fun name =>
        (name, (value formatter.settings t name).toNat)) := by
    rw [string, String.toList_ofList]
    exact read_render (by rw [compiled]; rfl) nonneg
  have whole : (⟨(value formatter.settings t .year).toNat,
      (value formatter.settings t .month).toNat, (value formatter.settings t .day).toNat⟩ : Civil) =
      civilOf (dayOf formatter.settings t) := by
    have year : ((value formatter.settings t .year).toNat : Int) =
        yearOf (dayOf formatter.settings t) := by
      simp only [value, yearOfEra, common, if_true]
      omega
    rw [year]
    rfl
  rw [compiled] at back
  rw [date_eq compiled back rfl rfl rfl rfl rfl, whole, if_pos, instantOf_value]
  exact ⟨by omega, civilOf_valid _, by omega, by omega⟩

end DateFormatter

end Remindify.Date
