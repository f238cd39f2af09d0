import WerTe.Calendar.Civil
import WerTe.Numeral.Texts

/-!
# Instants as texts

Instants are milliseconds since the beginning of 1970. Their texts begin with the date, and as long
as a year has four digits, the first ten characters are the date and tell which day it is
(`dateText_inj`).
-/

namespace Calendar

open Numeral

def dayOf (date : ℤ) : ℤ := date / 86400000

def yearText (year : ℤ) : String :=
  if 0 ≤ year ∧ year ≤ 9999 then padStart 4 year.toNat
  else (if year < 0 then "-" else "+") ++ padStart 6 year.natAbs

def dateText (day : ℤ) : String :=
  yearText (yearFromDay day) ++ "-" ++ padStart 2 (monthFromDay day + 1) ++ "-" ++
    padStart 2 (dateFromDay day).toNat

def toISOString (date : ℤ) : String :=
  dateText (dayOf date) ++ "T" ++ padStart 2 (date / 3600000 % 24).toNat ++ ":" ++
    padStart 2 (date / 60000 % 60).toNat ++ ":" ++ padStart 2 (date / 1000 % 60).toNat ++ "." ++
      padStart 3 (date % 1000).toNat ++ "Z"

def getUTCFullYear (date : ℤ) : ℤ := yearFromDay (dayOf date)

def getUTCMonth (date : ℤ) : ℕ := monthFromDay (dayOf date)

def getUTCDate (date : ℤ) : ℤ := dateFromDay (dayOf date)

/-- `Date.UTC`; two digits are a year of the twentieth century. -/
def dateUTC (year : ℤ) (month : ℕ) (date : ℤ) : ℤ :=
  makeDay (if 0 ≤ year ∧ year ≤ 99 then 1900 + year else year) month date * 86400000

def setUTCDate (date dayOfMonth : ℤ) : ℤ :=
  makeDay (getUTCFullYear date) (getUTCMonth date) dayOfMonth * 86400000 + date % 86400000

theorem dateUTC_midnight {date : ℤ} (hyear : 100 ≤ getUTCFullYear date) :
    dateUTC (getUTCFullYear date) (getUTCMonth date) (getUTCDate date) = dayOf date * 86400000 := by
  rw [dateUTC, if_neg (by omega)]
  exact congrArg (· * 86400000) (makeDay_civil (dayOf date))

/-- Days are added across the ends of months and years. -/
theorem setUTCDate_add (date days : ℤ) :
    setUTCDate date (getUTCDate date + days) = date + days * 86400000 := by
  have hday : makeDay (getUTCFullYear date) (getUTCMonth date) (getUTCDate date + days) =
      dayOf date + days := makeDay_civil_add (dayOf date) days
  rw [setUTCDate, hday, dayOf]
  omega

/-- The days of the years with four digits. -/
def FourDigitYear (day : ℤ) : Prop := 0 ≤ yearFromDay day ∧ yearFromDay day ≤ 9999

variable {day day' : ℤ}

theorem toList_dateText (h : FourDigitYear day) : (dateText day).toList =
    (padStart 4 (yearFromDay day).toNat).toList ++ '-' ::
      ((padStart 2 (monthFromDay day + 1)).toList ++ '-' ::
        (padStart 2 (dateFromDay day).toNat).toList) := by
  have hyear : 0 ≤ yearFromDay day ∧ yearFromDay day ≤ 9999 := h
  simp [dateText, yearText, hyear]

theorem length_dateText (h : FourDigitYear day) : (dateText day).toList.length = 10 := by
  obtain ⟨hmonth, -, hdate⟩ := monthFromDay_lt day
  have hyear := h.2
  rw [toList_dateText h, List.length_append, List.length_cons, List.length_append, List.length_cons,
    length_padStart (by decide) (by omega), length_padStart (by decide) (by omega),
    length_padStart (by decide) (by omega)]

/-- **A date's text tells the day.** -/
theorem dateText_inj (h : FourDigitYear day) (h' : FourDigitYear day') :
    dateText day = dateText day' ↔ day = day' := by
  constructor
  · intro heq
    have hlists := congrArg String.toList heq
    have hdash : ∀ width n, '-' ∉ (padStart width n).toList := notMem_padStart rfl
    rw [toList_dateText h, toList_dateText h', Keyed.append_cons_inj (hdash _ _) (hdash _ _),
      Keyed.append_cons_inj (hdash _ _) (hdash _ _), padStart_inj, padStart_inj, padStart_inj]
      at hlists
    obtain ⟨hyear, hmonth, hdate⟩ := hlists
    have hyears : yearFromDay day = yearFromDay day' := by
      have hnonneg := h.1
      have hnonneg' := h'.1
      omega
    have hdates : dateFromDay day = dateFromDay day' := by
      have hpos := (monthFromDay_lt day).2.1
      have hpos' := (monthFromDay_lt day').2.1
      omega
    rw [← makeDay_civil day, ← makeDay_civil day', hyears, Nat.succ.inj hmonth, hdates]
  · rintro rfl
    rfl

/-- The first ten characters of an instant's text are its date. -/
theorem take_toISOString {date : ℤ} (h : FourDigitYear (dayOf date)) :
    (toISOString date).toList.take 10 = (dateText (dayOf date)).toList := by
  rw [← length_dateText h]
  simp only [toISOString, String.toList_append, List.append_assoc]
  exact List.take_left

end Calendar
