/-
# Theory.Gregorian -- days, years, months and weeks of the Gregorian calendar

Days are numbered from 1 January of year 1, a Monday, which is day 0; years run both
ways, year 0 being 1 BC.

* `yearOf_spec`, `yearOf_eq`: the year of a day is the one it lies in;
* `dayNumber_civilOf`, `civilOf_dayNumber`: a day is its year, month and day of the
  month, and every date of the calendar is a day;
* `weekYearOf_eq_iff`: the year a week is counted in is the calendar year from the
  first week of that year up to the first week of the next;
* `weekYearOf_eq_of_inner`: which it is everywhere but within a week of New Year.

What the first week of a year is depends on a `WeekRule`.
-/
import Remindify.Theory.Blocks

namespace Remindify.Theory.Gregorian

open Remindify.Theory.Blocks

set_option autoImplicit false

/-! ## Years -/

/-- The number of 1 January. -/
def yearStart (year : Int) : Int :=
  365 * (year - 1) + (year - 1) / 4 - (year - 1) / 100 + (year - 1) / 400

def isLeap (year : Int) : Bool :=
  decide (year % 4 = 0) && (!decide (year % 100 = 0) || decide (year % 400 = 0))

def yearLength (year : Int) : Nat := if isLeap year then 366 else 365

/-- The year of a day: 400 years are 146097 days, which is off by one year at most. -/
def yearOf (day : Int) : Int :=
  let year := 400 * day / 146097 + 1
  if yearStart (year + 1) ≤ day then year + 1 else year

theorem yearStart_succ (year : Int) : yearStart (year + 1) = yearStart year + yearLength year := by
  unfold yearStart yearLength isLeap
  simp only [Bool.and_eq_true, Bool.or_eq_true, Bool.not_eq_true', decide_eq_true_eq,
    decide_eq_false_iff_not]
  split
  · omega
  · omega

theorem yearStart_le {year year' : Int} (notLater : year ≤ year') :
    yearStart year ≤ yearStart year' := by
  unfold yearStart
  omega

/-- **The year of a day is the one it lies in.** -/
theorem yearOf_spec (day : Int) :
    yearStart (yearOf day) ≤ day ∧ day < yearStart (yearOf day + 1) := by
  unfold yearOf
  dsimp only
  split
  · unfold yearStart at *
    omega
  · unfold yearStart at *
    omega

theorem yearOf_eq {day year : Int} (since : yearStart year ≤ day)
    (until_ : day < yearStart (year + 1)) : yearOf day = year := by
  obtain ⟨since', until'⟩ := yearOf_spec day
  rcases Int.lt_trichotomy (yearOf day) year with earlier | same | later
  · have start := yearStart_le (show yearOf day + 1 ≤ year from earlier)
    omega
  · exact same
  · have start := yearStart_le (show year + 1 ≤ yearOf day from later)
    omega

/-! ## Months -/

def monthLengths (year : Int) : List Nat :=
  [31, if isLeap year then 29 else 28, 31, 30, 31, 30, 31, 31, 30, 31, 30, 31]

theorem sum_monthLengths (year : Int) : (monthLengths year).sum = yearLength year := by
  unfold monthLengths yearLength
  cases isLeap year <;> rfl

/-- A date of the calendar; months and days count from 1. -/
structure Civil where
  year : Int
  month : Nat
  day : Nat
  deriving DecidableEq, Repr

/-- A month there is not has no days. -/
def monthLength (year : Int) (month : Nat) : Nat :=
  ((monthLengths year)[month - 1]?).getD 0

/-- The day exists in its month. -/
def Civil.Valid (date : Civil) : Prop :=
  1 ≤ date.month ∧ 1 ≤ date.day ∧ date.day ≤ monthLength date.year date.month

instance (date : Civil) : Decidable date.Valid :=
  inferInstanceAs (Decidable (_ ∧ _))

def dayOfYear (day : Int) : Nat := (day - yearStart (yearOf day)).toNat

def civilOf (day : Int) : Civil :=
  let found := locate (monthLengths (yearOf day)) (dayOfYear day)
  { year := yearOf day, month := found.1 + 1, day := found.2 + 1 }

def dayNumber (date : Civil) : Int :=
  yearStart date.year + (start (monthLengths date.year) (date.month - 1) + (date.day - 1) : Nat)

theorem dayOfYear_lt (day : Int) : dayOfYear day < (monthLengths (yearOf day)).sum := by
  obtain ⟨since, until_⟩ := yearOf_spec day
  rw [sum_monthLengths]
  rw [yearStart_succ] at until_
  unfold dayOfYear
  omega

theorem civilOf_valid (day : Int) : (civilOf day).Valid := by
  obtain ⟨length, at_, below⟩ := locate_snd_lt (dayOfYear_lt day)
  refine ⟨Nat.succ_pos _, Nat.succ_pos _, ?_⟩
  simp only [monthLength, civilOf, Nat.add_sub_cancel, at_, Option.getD_some]
  exact below

/-- There are twelve months, of at most 31 days. -/
theorem civilOf_bounds (day : Int) :
    1 ≤ (civilOf day).month ∧ (civilOf day).month ≤ 12 ∧
      1 ≤ (civilOf day).day ∧ (civilOf day).day ≤ 31 := by
  have months := locate_fst_lt (dayOfYear_lt day)
  obtain ⟨length, at_, below⟩ := locate_snd_lt (dayOfYear_lt day)
  have short : length ≤ 31 := by
    have member := List.mem_of_getElem? at_
    unfold monthLengths at member
    cases leap : isLeap (yearOf day) <;> rw [leap] at member <;> simp at member <;> omega
  have twelve : (monthLengths (yearOf day)).length = 12 := rfl
  unfold civilOf
  dsimp only
  omega

/-- **A day is its date.** -/
theorem dayNumber_civilOf (day : Int) : dayNumber (civilOf day) = day := by
  obtain ⟨since, -⟩ := yearOf_spec day
  have located := start_add_locate (dayOfYear_lt day)
  simp only [dayNumber, civilOf, Nat.add_sub_cancel, located]
  unfold dayOfYear
  omega

/-- **Every date is a day.** -/
theorem civilOf_dayNumber {date : Civil} (valid : date.Valid) :
    civilOf (dayNumber date) = date := by
  obtain ⟨month, day, short⟩ := valid
  obtain ⟨length, at_⟩ : ∃ length, (monthLengths date.year)[date.month - 1]? = some length := by
    cases found : (monthLengths date.year)[date.month - 1]? with
    | none =>
        simp only [monthLength, found, Option.getD_none] at short
        omega
    | some length => exact ⟨length, rfl⟩
  simp only [monthLength, at_, Option.getD_some] at short
  have below : date.day - 1 < length := by omega
  have inside := start_add_lt at_ below
  have year : yearOf (dayNumber date) = date.year := by
    apply yearOf_eq
    · unfold dayNumber
      omega
    · rw [yearStart_succ, ← sum_monthLengths]
      unfold dayNumber
      omega
  have place : dayOfYear (dayNumber date) =
      start (monthLengths date.year) (date.month - 1) + (date.day - 1) := by
    simp only [dayOfYear, year]
    unfold dayNumber
    omega
  have located := locate_start_add at_ below
  obtain ⟨y, m, d⟩ := date
  simp only [civilOf, year, place, located, Civil.mk.injEq, true_and]
  dsimp only at month day
  omega

/-! ## Weeks -/

/-- The days of the week, Sunday being 1. -/
def weekdayOf (day : Int) : Int := (day + 1) % 7 + 1

/-- The first day of the week, and how many days of a year its first week has at
least. -/
structure WeekRule where
  firstWeekday : Nat
  minimalDays : Nat
  weekday : 1 ≤ firstWeekday ∧ firstWeekday ≤ 7
  days : 1 ≤ minimalDays ∧ minimalDays ≤ 7
  deriving DecidableEq

/-- The day the first week of a year begins with. -/
def firstWeek (rule : WeekRule) (year : Int) : Int :=
  let january := yearStart year
  let past := (weekdayOf january - rule.firstWeekday) % 7
  if rule.minimalDays ≤ 7 - past then january - past else january - past + 7

/-- The year a day's week is counted in. -/
def weekYearOf (rule : WeekRule) (day : Int) : Int :=
  let year := yearOf day
  if day < firstWeek rule year then year - 1
  else if firstWeek rule (year + 1) ≤ day then year + 1
  else year

/-- The first week begins within a week of New Year. -/
theorem firstWeek_near (rule : WeekRule) (year : Int) :
    yearStart year - 6 ≤ firstWeek rule year ∧ firstWeek rule year ≤ yearStart year + 6 := by
  have fewest := rule.days
  unfold firstWeek
  dsimp only
  split <;> omega

/-- **When the week's year is the calendar year.** -/
theorem weekYearOf_eq_iff (rule : WeekRule) (day : Int) :
    weekYearOf rule day = yearOf day ↔
      firstWeek rule (yearOf day) ≤ day ∧ day < firstWeek rule (yearOf day + 1) := by
  unfold weekYearOf
  dsimp only
  split
  · omega
  · split <;> omega

/-- Days away from New Year are counted in their own year, whatever the rule. -/
theorem weekYearOf_eq_of_inner (rule : WeekRule) {day : Int}
    (january : yearStart (yearOf day) + 6 ≤ day)
    (december : day + 6 < yearStart (yearOf day + 1)) :
    weekYearOf rule day = yearOf day := by
  have this := firstWeek_near rule (yearOf day)
  have next := firstWeek_near rule (yearOf day + 1)
  rw [weekYearOf_eq_iff]
  omega

end Remindify.Theory.Gregorian
