import VehiclesOnline.Library.CivilCalendar
import VehiclesOnline.Wizard.Dates

/-! # Instants

The days of the civil calendar in one count, and the instants that local times stand for. -/

namespace VehiclesOnline

namespace Utc

open CivilCalendar (LeapRule gregorian)

/-! ### Days -/

def daysBeforeYear (year : ℤ) : ℤ :=
  365 * (year - 1) + (year - 1) / 4 - (year - 1) / 100 + (year - 1) / 400

def leapDays (year : ℤ) : ℤ := if isLeap year then 1 else 0

/-- As if February had 30 days, less what it lacks. -/
def daysBeforeMonth (year month : ℤ) : ℤ :=
  (367 * month - 362) / 12 - if month ≤ 2 then 0 else 2 - leapDays year

/-- The number of a day, counted from the first day of the year 1. -/
def dayNumber (year month day : ℤ) : ℤ :=
  daysBeforeYear year + daysBeforeMonth year month + day

variable {year month day year' month' day' : ℤ}

theorem dayNumber_eq : dayNumber year month day = gregorian.dayNumber ⟨year, month, day⟩ := rfl

theorem isDate_iff : gregorian.IsDate ⟨year, month, day⟩ ↔ IsCivilDate year month day := by
  have hdays : gregorian.daysInMonth year month = daysInMonth year month := by
    rw [daysInMonth, LeapRule.daysInMonth, LeapRule.leapDays]
    change _ = if month = 2 then if gregorian.isLeap year then 29 else 28 else _
    cases gregorian.isLeap year <;> rfl
  rw [LeapRule.IsDate, IsCivilDate, hdays]

/-- Days are counted in the order of the calendar. -/
theorem dayNumber_lt (h : IsCivilDate year month day) (h' : IsCivilDate year' month' day')
    (hlt : civilDate year month day < civilDate year' month' day') :
    dayNumber year month day < dayNumber year' month' day' := by
  simp only [civilDate, Prod.Lex.toLex_lt_toLex] at hlt
  rw [dayNumber_eq, dayNumber_eq]
  exact LeapRule.dayNumber_lt (isDate_iff.mpr h) (isDate_iff.mpr h') hlt

end Utc

/-! ### Local times -/

/-- A date, an hour and a minute, in the order of the clock. -/
abbrev LocalTime := CivilDate ×ₗ ℤ ×ₗ ℤ

def localTime (year month day hour minute : ℤ) : LocalTime :=
  toLex (civilDate year month day, toLex (hour, minute))

/-- What the application relies on in the instants of Joda-Time: local times have hours and
minutes, and in the time zone of the server they follow one another as on the clock. -/
structure Timeline (joda : Joda) where
  getMillis : joda.DateTime → ℤ
  nonneg : ∀ year month day hour minute t,
    joda.dateTime year month day hour minute = some t → 0 ≤ hour ∧ 0 ≤ minute
  getMillis_lt : ∀ year month day hour minute t year' month' day' hour' minute' t',
    joda.dateTime year month day hour minute = some t →
    joda.dateTime year' month' day' hour' minute' = some t' →
    localTime year month day hour minute < localTime year' month' day' hour' minute' →
    getMillis t < getMillis t'

namespace Utc

def millisPerDay : ℤ := 24 * 60 * 60 * 1000

/-- Counted from the first day of 1970. -/
def getMillis (t : DateTime) : ℤ :=
  (dayNumber t.year t.month t.day - dayNumber 1970 1 1) * millisPerDay +
    (t.hour * 60 + t.minute) * 60 * 1000

theorem getMillis_lt (t t' : DateTime)
    (h : localTime t.year t.month t.day t.hour t.minute <
      localTime t'.year t'.month t'.day t'.hour t'.minute) : getMillis t < getMillis t' := by
  have hhour := t.hour_mem
  have hhour' := t'.hour_mem
  have hminute := t.minute_mem
  have hminute' := t'.minute_mem
  simp only [localTime, Prod.Lex.toLex_lt_toLex] at h
  rw [getMillis, getMillis, millisPerDay]
  rcases h with hdate | ⟨hdate, hhours | ⟨hhours, hminutes⟩⟩
  · have hdays := dayNumber_lt ⟨t.month_mem, t.day_mem⟩ ⟨t'.month_mem, t'.day_mem⟩ hdate
    omega
  · obtain ⟨hyear, hmonth, hday⟩ := civilDate_inj.mp hdate
    rw [hyear, hmonth, hday]
    omega
  · obtain ⟨hyear, hmonth, hday⟩ := civilDate_inj.mp hdate
    rw [hyear, hmonth, hday, hhours]
    omega

theorem fields_eq {hour minute : ℤ} {t : DateTime}
    (h : dateTime year month day hour minute = some t) :
    localTime t.year t.month t.day t.hour t.minute = localTime year month day hour minute := by
  rw [dateTime] at h
  split at h
  · cases h
    rfl
  · cases h

def timeline : Timeline utc where
  getMillis := getMillis
  nonneg year month day hour minute t h := by
    obtain ⟨-, -, hhour, hminute⟩ :=
      (isSome_dateTime_iff year month day hour minute).mp (Option.isSome_of_eq_some h)
    exact ⟨hhour.1, hminute.1⟩
  getMillis_lt _ _ _ _ _ t _ _ _ _ _ t' h h' hlt := by
    rw [← fields_eq h, ← fields_eq h'] at hlt
    exact getMillis_lt t t' hlt

end Utc

end VehiclesOnline
