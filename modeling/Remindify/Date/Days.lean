/-
# Date.Days -- the calendar of the picker and its row of days

The picker takes a date apart into `components`, lets one of them be changed and makes a
date of them again, on a calendar with a fixed time zone.  Its row of days is filled by
counting days on from the minimum date while the maximum is not passed.

* `dateFrom_dateComponents`, `dateComponents_dateFrom`: taking apart and making are
  inverse, from year 1 on;
* `getElem?_fillDates`: what the loop fills in;
* `offers_iff`: the row has every day of the range exactly when the maximum is not
  earlier in its day than the minimum;
* `indexOf_eq_iff`: the cell looked up for a date, by a text with the year of the week.
-/
import Mathlib.Data.List.Nodup
import Remindify.Date.Formatter
import Remindify.Theory.Hands

namespace Remindify.Date

open Remindify.Theory
open Remindify.Theory.Gregorian
open Remindify.Theory.Hands
open Remindify.Theory.Pattern

set_option autoImplicit false

/-! ## Components -/

structure DateComponents where
  year : Int
  month : Nat
  day : Nat
  hour : Nat
  minute : Nat
  second : Nat
  deriving DecidableEq, Repr

section Calendar

variable (settings : Settings)

/-- `calendar.dateComponents([.day, .month, .year, .hour, .minute, .second], from:)`. -/
def dateComponents (t : Instant) : DateComponents where
  year := value settings t .year
  month := (value settings t .month).toNat
  day := (value settings t .day).toNat
  hour := (value settings t .hour).toNat
  minute := (value settings t .minute).toNat
  second := (t % 60).toNat

/-- `calendar.date(from:)`: no era is the common one, and what is too much of one
component is carried over. -/
def dateFrom (components : DateComponents) : Instant :=
  instantOf settings ⟨components.year, components.month, components.day⟩ components.hour
    components.minute + components.second

/-- `calendar.date(byAdding:to:)`, for a number of days. -/
def addingDays (days : Nat) (t : Instant) : Instant := (t + 86400 * (days : Int) : Int)

/-- Seconds on the clock of the time zone. -/
def wall (t : Instant) : Int := t + settings.minutesFromGMT * 60

end Calendar

/-- The components are of a date there is. -/
structure DateComponents.Valid (components : DateComponents) : Prop where
  common : 1 ≤ components.year
  civil : (⟨components.year, components.month, components.day⟩ : Civil).Valid
  hours : components.hour < 24
  minutes : components.minute < 60
  seconds : components.second < 60

section Calendar

variable {settings : Settings} {t : Instant}

theorem dayOf_eq_wall : dayOf settings t = wall settings t / 86400 + epoch := by
  unfold dayOf wallMinute wall
  omega

/-- What is made of components that were only moved in time. -/
theorem dateFrom_eq (components : DateComponents) :
    dateFrom settings components =
      ((dayNumber ⟨components.year, components.month, components.day⟩ - epoch) * 86400 +
        components.hour * 3600 + components.minute * 60 + components.second -
          settings.minutesFromGMT * 60 : Int) := by
  unfold dateFrom instantOf
  show (_ : Int) = _
  omega

/-- The day a date was taken apart from. -/
theorem dayNumber_dateComponents (common : 1 ≤ yearOf (dayOf settings t)) :
    dayNumber ⟨(dateComponents settings t).year, (dateComponents settings t).month,
      (dateComponents settings t).day⟩ = dayOf settings t := by
  have whole : (⟨(dateComponents settings t).year, (dateComponents settings t).month,
      (dateComponents settings t).day⟩ : Civil) = civilOf (dayOf settings t) := by
    simp only [dateComponents, value, yearOfEra, common, if_true]
    rfl
  rw [whole, dayNumber_civilOf]

/-- **What was taken apart is made again.** -/
theorem dateFrom_dateComponents (common : 1 ≤ yearOf (dayOf settings t)) :
    dateFrom settings (dateComponents settings t) = t := by
  rw [dateFrom_eq, dayNumber_dateComponents common]
  obtain ⟨hours, minutes, -⟩ := value_bounds settings t
  simp only [dateComponents, value] at hours minutes ⊢
  unfold dayOf wallMinute at *
  show (_ : Int) = _
  omega

theorem dateComponents_valid (common : 1 ≤ yearOf (dayOf settings t)) :
    (dateComponents settings t).Valid := by
  obtain ⟨hours, minutes, -⟩ := value_bounds settings t
  have whole : (⟨(dateComponents settings t).year, (dateComponents settings t).month,
      (dateComponents settings t).day⟩ : Civil) = civilOf (dayOf settings t) := by
    simp only [dateComponents, value, yearOfEra, common, if_true]
    rfl
  refine ⟨?_, by rw [whole]; exact civilOf_valid _, ?_, ?_, ?_⟩
  · simp only [dateComponents, value, yearOfEra, common, if_true]
  · simp only [dateComponents]
    omega
  · simp only [dateComponents]
    omega
  · simp only [dateComponents]
    omega

/-- The day of what is made. -/
theorem dayOf_dateFrom {components : DateComponents} (valid : components.Valid) :
    dayOf settings (dateFrom settings components) =
      dayNumber ⟨components.year, components.month, components.day⟩ := by
  obtain ⟨-, -, hours, minutes, seconds⟩ := valid
  rw [dateFrom_eq]
  unfold dayOf wallMinute
  omega

/-- **What was made is taken apart again.** -/
theorem dateComponents_dateFrom {components : DateComponents} (valid : components.Valid) :
    dateComponents settings (dateFrom settings components) = components := by
  have day : dayOf settings (dateFrom settings components) = _ := dayOf_dateFrom valid
  have civil := civilOf_dayNumber valid.civil
  obtain ⟨common, -, hours, minutes, seconds⟩ := valid
  have year : yearOf (dayOf settings (dateFrom settings components)) = components.year := by
    rw [day]
    exact congrArg Civil.year civil
  obtain ⟨y, m, d, hour, minute, second⟩ := components
  simp only [dateComponents, value, DateComponents.mk.injEq]
  rw [year, day, civil, dateFrom_eq]
  simp only [yearOfEra] at common ⊢
  dsimp only at hours minutes seconds
  unfold wallMinute
  refine ⟨if_pos common, by omega, by omega, by omega, by omega, by omega⟩

/-- The hands show the time of day. -/
theorem dateComponents_hand :
    ((dateComponents settings t).hour : Int) = hand 3600 24 (wall settings t) ∧
      ((dateComponents settings t).minute : Int) = hand 60 60 (wall settings t) ∧
        ((dateComponents settings t).second : Int) = hand 1 60 (wall settings t) := by
  simp only [dateComponents, value, hand]
  unfold wallMinute wall
  refine ⟨by omega, by omega, by omega⟩

end Calendar

/-! ## The row of days -/

/-- The loop of `fillDates`, from a count of days on. -/
def fillFrom (fromDate toDate : Instant) (dayCount : Nat) : List Instant :=
  let date := addingDays dayCount fromDate
  if past : toDate < date then [] else date :: fillFrom fromDate toDate (dayCount + 1)
  termination_by (toDate + 1 - addingDays dayCount fromDate).toNat
  decreasing_by
    have inside := Int.not_lt.1 past
    simp only [date, addingDays] at inside ⊢
    omega

def fillDates (fromDate toDate : Instant) : List Instant := fillFrom fromDate toDate 0

section FillDates

variable {fromDate toDate : Int}

theorem getElem?_fillFrom (dayCount i : Nat) :
    (fillFrom fromDate toDate dayCount)[i]? =
      if toDate < addingDays (dayCount + i) fromDate then none
      else some (addingDays (dayCount + i) fromDate) := by
  induction dayCount using fillFrom.induct fromDate toDate generalizing i with
  | case1 dayCount date past =>
      have later : toDate < addingDays (dayCount + i) fromDate := by
        refine Int.lt_of_lt_of_le past ?_
        simp only [date, addingDays]
        omega
      rw [fillFrom, dif_pos past, if_pos later, List.getElem?_nil]
  | case2 dayCount date more ih =>
      rw [fillFrom, dif_neg more]
      cases i with
      | zero => rw [List.getElem?_cons_zero, Nat.add_zero, if_neg more]
      | succ i => rw [List.getElem?_cons_succ, ih, Nat.add_right_comm, Nat.add_assoc]

/-- **What the loop fills in.** -/
theorem getElem?_fillDates (i : Nat) :
    (fillDates fromDate toDate)[i]? =
      if toDate < addingDays i fromDate then none else some (addingDays i fromDate) := by
  rw [fillDates, getElem?_fillFrom, Nat.zero_add]

variable {settings : Settings}

theorem dayOf_addingDays (i : Nat) :
    dayOf settings (addingDays i fromDate) = dayOf settings fromDate + i := by
  unfold dayOf wallMinute addingDays
  omega

/-- A cell of the row. -/
theorem getElem?_fillDates_eq_some {i : Nat} {date : Int}
    (at_ : (fillDates fromDate toDate)[i]? = some date) :
    date = addingDays i fromDate ∧ fromDate ≤ date ∧ date ≤ toDate := by
  rw [getElem?_fillDates] at at_
  split at at_
  · cases at_
  · rename_i inside
    cases at_
    refine ⟨rfl, ?_, Int.not_lt.1 inside⟩
    simp only [addingDays]
    omega

/-- The picker offers a day: one of its cells is of that day. -/
def Offers (settings : Settings) (dates : List Instant) (day : Int) : Prop :=
  ∃ date ∈ dates, dayOf settings date = day

/-- The days that are offered begin with that of the minimum date. -/
theorem offers_fillDates_iff {day : Int} :
    Offers settings (fillDates fromDate toDate) day ↔
      dayOf settings fromDate ≤ day ∧
        fromDate + 86400 * (day - dayOf settings fromDate) ≤ toDate := by
  constructor
  · rintro ⟨date, member, rfl⟩
    obtain ⟨i, at_⟩ := List.getElem?_of_mem member
    obtain ⟨rfl, -, until_⟩ := getElem?_fillDates_eq_some at_
    rw [dayOf_addingDays]
    refine ⟨by omega, Int.le_trans (Int.le_of_eq ?_) until_⟩
    simp only [addingDays]
    omega
  · rintro ⟨since, until_⟩
    obtain ⟨i, counted⟩ := Int.eq_ofNat_of_zero_le (Int.sub_nonneg_of_le since)
    have inside : ¬ toDate < addingDays i fromDate := by
      refine Int.not_lt.2 (Int.le_trans (Int.le_of_eq ?_) until_)
      rw [counted]
      rfl
    have cell : (fillDates fromDate toDate)[i]? = some (addingDays i fromDate) := by
      rw [getElem?_fillDates, if_neg inside]
    refine ⟨_, List.mem_of_getElem? cell, ?_⟩
    rw [dayOf_addingDays]
    omega

end FillDates

/-! ## The cell of a date -/

section Lookup

variable (settings : Settings)

/-- The text two dates are compared by. -/
def dayString (t : Instant) : String :=
  { dateFormat := "dd/MM/YYYY", settings : DateFormatter }.string t

/-- The item `updateCollectionView` and `configureView` find for a date. -/
def indexOf (dates : List Instant) (date : Instant) : Option Nat :=
  dates.findIdx? fun cell => dayString settings cell = dayString settings date

variable {settings}

theorem dayString_eq_iff {t t' : Instant} :
    dayString settings t = dayString settings t' ↔
      value settings t .day = value settings t' .day ∧
        value settings t .month = value settings t' .month ∧
          value settings t .weekYear = value settings t' .weekYear := by
  have pattern : ({ dateFormat := "dd/MM/YYYY", settings : DateFormatter }).pattern =
      [.field .day 2, .literal '/', .field .month 2, .literal '/', .field .weekYear 4] :=
    show compile "dd/MM/YYYY".toList = _ from rfl
  rw [dayString, dayString, DateFormatter.string, DateFormatter.string, String.ofList_inj, pattern,
    render_eq_render (by rfl)]
  simp only [fields, List.forall_mem_cons, List.not_mem_nil, false_implies, implies_true, and_true]

/-- Times of one day have one text. -/
theorem dayString_congr {t t' : Instant} (same : dayOf settings t = dayOf settings t') :
    dayString settings t = dayString settings t' := by
  simp only [dayString_eq_iff, value, same, and_self]

/-- Months are as long in every year, but for a day of February. -/
theorem start_monthLengths_le (year year' : Int) :
    ∀ month < 12, Blocks.start (monthLengths year) month + 365 ≤
      Blocks.start (monthLengths year') month + yearLength year := by
  unfold monthLengths yearLength
  cases isLeap year <;> cases isLeap year' <;> decide

/-- The same date of a later year is 365 days later, or more. -/
theorem add_365_le {day day' : Int} (later : day < day')
    (months : (civilOf day).month = (civilOf day').month)
    (days : (civilOf day).day = (civilOf day').day) : day + 365 ≤ day' := by
  have bounds := civilOf_bounds day
  have number := dayNumber_civilOf day
  have number' := dayNumber_civilOf day'
  have lengths := start_monthLengths_le (civilOf day).year (civilOf day').year
    ((civilOf day).month - 1) (by omega)
  have next : (civilOf day).year + 1 ≤ (civilOf day').year := by
    rcases Int.lt_trichotomy (civilOf day).year (civilOf day').year with earlier | same | earlier
    · exact earlier
    · have whole : civilOf day = civilOf day' := by
        cases civil : civilOf day
        cases civil' : civilOf day'
        simp only [civil, civil'] at months days same
        simp only [months, days, same]
      rw [← number, ← number', whole] at later
      omega
    · have starts := yearStart_le (show (civilOf day').year + 1 ≤ (civilOf day).year from earlier)
      obtain ⟨since, -⟩ := yearOf_spec day
      obtain ⟨-, until_⟩ := yearOf_spec day'
      simp only [civilOf] at starts
      omega
  have years := yearStart_le next
  rw [yearStart_succ] at years
  simp only [dayNumber] at number number'
  rw [← months, ← days] at number'
  omega

variable {fromDate toDate t : Int} {i : Nat}

/-- **When the cell of a date is found**: no cell before it has its text. -/
theorem indexOf_eq_iff {date : Int} (at_ : (fillDates fromDate toDate)[i]? = some date)
    (same : dayOf settings date = dayOf settings t) :
    indexOf settings (fillDates fromDate toDate) t = some i ↔
      ∀ j < i, dayString settings (addingDays j fromDate) ≠ dayString settings t := by
  obtain ⟨bound, rfl⟩ := List.getElem?_eq_some_iff.1 at_
  have cell : ∀ j (below : j < (fillDates fromDate toDate).length),
      (fillDates fromDate toDate)[j] = addingDays j fromDate := fun j below =>
    (getElem?_fillDates_eq_some (List.getElem?_eq_getElem below)).1
  rw [indexOf, List.findIdx?_eq_some_iff_getElem]
  constructor
  · rintro ⟨_, -, first⟩ j below
    have apart := first j below
    rw [cell] at apart
    simpa using apart
  · intro first
    refine ⟨bound, by simpa using dayString_congr same, fun j below => ?_⟩
    rw [cell]
    simpa using first j below

/-- It is found in every range shorter than a year. -/
theorem indexOf_of_short {date : Int} (at_ : (fillDates fromDate toDate)[i]? = some date)
    (same : dayOf settings date = dayOf settings t)
    (short : toDate < fromDate + 86400 * 365) :
    indexOf settings (fillDates fromDate toDate) t = some i := by
  rw [indexOf_eq_iff at_ same]
  obtain ⟨rfl, -, until_⟩ := getElem?_fillDates_eq_some at_
  intro j below alike
  rw [← dayString_congr same, dayString_eq_iff] at alike
  obtain ⟨days, months, -⟩ := alike
  simp only [value, dayOf_addingDays] at days months
  have apart : dayOf settings fromDate + j + 365 ≤ dayOf settings fromDate + i :=
    add_365_le (by omega) (by omega) (by omega)
  simp only [addingDays] at until_
  omega

end Lookup

end Remindify.Date
