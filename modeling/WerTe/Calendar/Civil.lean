import Mathlib

/-!
# The civil calendar

Days are counted from the first of January 1970 on, years as the Gregorian calendar has them before
that too, and months from zero. A day's year, month and date tell which day it is
(`makeDay_civil`).
-/

namespace Calendar

/-- The first day of a year. -/
def dayFromYear (year : ℤ) : ℤ :=
  365 * (year - 1970) + (year - 1969) / 4 - (year - 1901) / 100 + (year - 1601) / 400

def isLeapYear (year : ℤ) : Bool :=
  year % 4 == 0 && (year % 100 != 0 || year % 400 == 0)

def daysInYear (year : ℤ) : ℤ := if isLeapYear year then 366 else 365

/-- The centuries, the fours of years and the years that have gone by since a first of January
after a leap year that ended a century which is a multiple of 400. The fourth century of four and
the fourth year of four may be a day longer than the others. -/
def yearFromDay (day : ℤ) : ℤ :=
  let since := day - dayFromYear 1601
  let cycles := since / 146097
  let inCycle := since % 146097
  let centuries := min (inCycle / 36524) 3
  let inCentury := inCycle - 36524 * centuries
  let fours := inCentury / 1461
  let years := min (inCentury % 1461 / 365) 3
  1601 + 400 * cycles + 100 * centuries + 4 * fours + years

theorem isLeapYear_iff {year : ℤ} :
    isLeapYear year = true ↔ year % 4 = 0 ∧ (year % 100 ≠ 0 ∨ year % 400 = 0) := by
  simp [isLeapYear]

theorem dayFromYear_succ (year : ℤ) :
    dayFromYear (year + 1) = dayFromYear year + daysInYear year := by
  simp only [dayFromYear, daysInYear, isLeapYear_iff]
  split <;> omega

section Cycle

variable {cycles centuries fours years : ℤ} (hcenturies : 0 ≤ centuries ∧ centuries ≤ 3)
  (hfours : 0 ≤ fours ∧ fours ≤ 24) (hyears : 0 ≤ years ∧ years ≤ 3)

include hcenturies hfours hyears

theorem dayFromYear_cycle :
    dayFromYear (1601 + 400 * cycles + 100 * centuries + 4 * fours + years) =
      dayFromYear 1601 + 146097 * cycles + 36524 * centuries + 1461 * fours + 365 * years := by
  simp only [dayFromYear]
  omega

theorem isLeapYear_cycle :
    isLeapYear (1601 + 400 * cycles + 100 * centuries + 4 * fours + years) = true ↔
      years = 3 ∧ (fours ≠ 24 ∨ centuries = 3) := by
  rw [isLeapYear_iff]
  omega

end Cycle

/-- A day is one of its year. -/
theorem dayFromYear_yearFromDay (day : ℤ) : dayFromYear (yearFromDay day) ≤ day ∧
    day < dayFromYear (yearFromDay day) + daysInYear (yearFromDay day) := by
  simp only [yearFromDay]
  set since := day - dayFromYear 1601 with hsince
  set centuries := min (since % 146097 / 36524) 3 with hcenturies
  set inCentury := since % 146097 - 36524 * centuries with hinCentury
  have hboundCenturies : 0 ≤ centuries ∧ centuries ≤ 3 := by omega
  have hboundFours : 0 ≤ inCentury / 1461 ∧ inCentury / 1461 ≤ 24 := by omega
  have hboundYears : 0 ≤ min (inCentury % 1461 / 365) 3 ∧ min (inCentury % 1461 / 365) 3 ≤ 3 := by
    omega
  rw [daysInYear, dayFromYear_cycle hboundCenturies hboundFours hboundYears]
  simp only [isLeapYear_cycle hboundCenturies hboundFours hboundYears]
  split <;> omega

/-! ## Months -/

def monthLengths (leap : Bool) : List ℤ :=
  [31, if leap then 29 else 28, 31, 30, 31, 30, 31, 31, 30, 31, 30, 31]

theorem sum_monthLengths (year : ℤ) : (monthLengths (isLeapYear year)).sum = daysInYear year := by
  rw [daysInYear]
  cases isLeapYear year <;> rfl

/-- A day's month and its date in it, when the months are of some lengths. -/
def monthAndDate : List ℤ → ℤ → ℕ × ℤ
  | [], day => (0, day + 1)
  | length :: lengths, day =>
    if day < length then (0, day + 1)
    else ((monthAndDate lengths (day - length)).1 + 1, (monthAndDate lengths (day - length)).2)

theorem sum_take_monthAndDate (lengths : List ℤ) (day : ℤ) :
    (lengths.take (monthAndDate lengths day).1).sum + (monthAndDate lengths day).2 - 1 = day := by
  induction lengths generalizing day with
  | nil => simp [monthAndDate]
  | cons length lengths ih =>
    rw [monthAndDate]
    split
    case isTrue => simp
    case isFalse =>
      have hrest := ih (day - length)
      rw [List.take_succ_cons, List.sum_cons]
      omega

/-- The date is one of the month. -/
theorem monthAndDate_bounds {lengths : List ℤ} {day : ℤ} (hnonneg : 0 ≤ day)
    (hday : day < lengths.sum) : ∃ length, lengths[(monthAndDate lengths day).1]? = some length ∧
      1 ≤ (monthAndDate lengths day).2 ∧ (monthAndDate lengths day).2 ≤ length := by
  induction lengths generalizing day with
  | nil => exact absurd hday (by simpa using hnonneg)
  | cons length lengths ih =>
    rw [monthAndDate]
    split
    case isTrue hlt => exact ⟨length, rfl, by omega, by omega⟩
    case isFalse hge =>
      rw [List.sum_cons] at hday
      exact ih (by omega) (by omega)

def dayWithinYear (day : ℤ) : ℤ := day - dayFromYear (yearFromDay day)

def civilMonthAndDate (day : ℤ) : ℕ × ℤ :=
  monthAndDate (monthLengths (isLeapYear (yearFromDay day))) (dayWithinYear day)

def monthFromDay (day : ℤ) : ℕ := (civilMonthAndDate day).1

def dateFromDay (day : ℤ) : ℤ := (civilMonthAndDate day).2

theorem monthFromDay_lt (day : ℤ) : monthFromDay day < 12 ∧ 1 ≤ dateFromDay day ∧
    dateFromDay day ≤ 31 := by
  obtain ⟨hfirst, hlast⟩ := dayFromYear_yearFromDay day
  rw [← sum_monthLengths] at hlast
  have hnonneg : 0 ≤ dayWithinYear day := Int.sub_nonneg_of_le hfirst
  have hlt : dayWithinYear day < (monthLengths (isLeapYear (yearFromDay day))).sum :=
    Int.sub_left_lt_of_lt_add hlast
  obtain ⟨length, hlength, hdate⟩ := monthAndDate_bounds hnonneg hlt
  obtain ⟨hmonth, rfl⟩ := List.getElem?_eq_some_iff.mp hlength
  have hlengths : ∀ leap, ∀ length ∈ monthLengths leap, length ≤ 31 := by decide
  exact ⟨hmonth, hdate.1, Int.le_trans hdate.2 (hlengths _ _ (List.getElem_mem hmonth))⟩

/-- The day of a date, which need not be one of the month. -/
def makeDay (year : ℤ) (month : ℕ) (date : ℤ) : ℤ :=
  dayFromYear year + ((monthLengths (isLeapYear year)).take month).sum + date - 1

/-- A date that is some days later. -/
theorem makeDay_civil_add (day days : ℤ) :
    makeDay (yearFromDay day) (monthFromDay day) (dateFromDay day + days) = day + days := by
  have h := sum_take_monthAndDate (monthLengths (isLeapYear (yearFromDay day))) (dayWithinYear day)
  simp only [makeDay, monthFromDay, dateFromDay, civilMonthAndDate, dayWithinYear] at *
  omega

theorem makeDay_civil (day : ℤ) :
    makeDay (yearFromDay day) (monthFromDay day) (dateFromDay day) = day := by
  have h := makeDay_civil_add day 0
  rwa [Int.add_zero, Int.add_zero] at h

theorem dayFromYear_mono : Monotone dayFromYear := by
  refine monotone_int_of_le_succ fun year => ?_
  rw [dayFromYear_succ, daysInYear]
  split <;> omega

/-- Later days are not of earlier years. -/
theorem yearFromDay_mono : Monotone yearFromDay := by
  intro day day' h
  by_contra hyears
  have hnext := dayFromYear_mono (Int.add_one_le_of_lt (not_le.mp hyears))
  have hfirst := (dayFromYear_yearFromDay day).1
  have hlast := (dayFromYear_yearFromDay day').2
  rw [dayFromYear_succ] at hnext
  omega

end Calendar
