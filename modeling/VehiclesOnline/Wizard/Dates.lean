import Mathlib.Data.Prod.Lex
import VehiclesOnline.Wizard.Calendar

/-! Dates of the civil calendar, the comparison and the subtraction that the application
defines on them, and what it relies on in the arithmetic of Joda-Time. -/

namespace VehiclesOnline

/-- A year, a month and a day, in the order of the calendar. -/
abbrev CivilDate := ℤ ×ₗ ℤ ×ₗ ℤ

def civilDate (year month day : ℤ) : CivilDate := toLex (year, toLex (month, day))

theorem civilDate_inj {year month day year' month' day' : ℤ} :
    civilDate year month day = civilDate year' month' day' ↔
      year = year' ∧ month = month' ∧ day = day' := by
  simp [civilDate]

/-- The month has that day in that year. -/
def IsCivilDate (year month day : ℤ) : Prop :=
  (1 ≤ month ∧ month ≤ 12) ∧ 1 ≤ day ∧ day ≤ Utc.daysInMonth year month

instance (year month day : ℤ) : Decidable (IsCivilDate year month day) :=
  inferInstanceAs (Decidable (_ ∧ _))

theorem Utc.daysInMonth_le (year month : ℤ) : Utc.daysInMonth year month ≤ 31 := by
  rw [Utc.daysInMonth]
  split_ifs <;> decide

/-! ### Comparison -/

namespace DayMonthYear

def civil (date : DayMonthYear) : CivilDate := civilDate date.year date.month date.day

/-- There is nothing to compare to where one of the two lacks the field. -/
def compareMinutes (this that : DayMonthYear) : Ordering :=
  match this.minutes, that.minutes with
  | none, some _ => .lt
  | some x, some y => Ord.compare x y
  | some _, none => .gt
  | none, none => .eq

def compareHours (this that : DayMonthYear) : Ordering :=
  match this.hour, that.hour with
  | none, some _ => .lt
  | some thisHours, some thatHours =>
      match Ord.compare thisHours thatHours with
      | .eq => compareMinutes this that
      | notEqual => notEqual
  | some _, none => .gt
  | none, none => .eq

def compare (this that : DayMonthYear) : Ordering :=
  match Ord.compare this.year that.year with
  | .eq =>
      match Ord.compare this.month that.month with
      | .eq =>
          match Ord.compare this.day that.day with
          | .eq => compareHours this that
          | notEqual => notEqual
      | notEqual => notEqual
  | notEqual => notEqual

variable {this that : DayMonthYear}

/-- An earlier date is less, whatever the times. -/
theorem compare_of_lt (h : this.civil < that.civil) : this.compare that = .lt := by
  simp only [civil, civilDate, Prod.Lex.toLex_lt_toLex] at h
  rw [compare]
  rcases h with hyear | ⟨hyear, hmonth | ⟨hmonth, hday⟩⟩
  · rw [compare_lt_iff_lt.mpr hyear]
  · rw [compare_eq_iff_eq.mpr hyear, compare_lt_iff_lt.mpr hmonth]
  · rw [compare_eq_iff_eq.mpr hyear, compare_eq_iff_eq.mpr hmonth, compare_lt_iff_lt.mpr hday]

theorem compare_of_gt (h : that.civil < this.civil) : this.compare that = .gt := by
  simp only [civil, civilDate, Prod.Lex.toLex_lt_toLex] at h
  rw [compare]
  rcases h with hyear | ⟨hyear, hmonth | ⟨hmonth, hday⟩⟩
  · rw [compare_gt_iff_gt.mpr hyear]
  · rw [compare_eq_iff_eq.mpr hyear.symm, compare_gt_iff_gt.mpr hmonth]
  · rw [compare_eq_iff_eq.mpr hyear.symm, compare_eq_iff_eq.mpr hmonth.symm,
      compare_gt_iff_gt.mpr hday]

/-- On one date the hours decide. -/
theorem compare_of_eq (h : this.civil = that.civil) :
    this.compare that = compareHours this that := by
  obtain ⟨hyear, hmonth, hday⟩ := civilDate_inj.mp h
  rw [compare, compare_eq_iff_eq.mpr hyear, compare_eq_iff_eq.mpr hmonth,
    compare_eq_iff_eq.mpr hday]

/-- A date without a time is less than the same date with one. -/
theorem compareHours_of_none (h : this.hour = none) (h' : that.hour ≠ none) :
    compareHours this that = .lt := by
  obtain ⟨hour, hhour⟩ := Option.ne_none_iff_exists'.mp h'
  rw [compareHours, h, hhour]

theorem compare_isLE_iff (h : this.hour = none) (h' : that.hour ≠ none) :
    (this.compare that).isLE = true ↔ this.civil ≤ that.civil := by
  rcases lt_trichotomy this.civil that.civil with hlt | heq | hgt
  · simp [compare_of_lt hlt, hlt.le]
  · simp [compare_of_eq heq, compareHours_of_none h h', heq.le]
  · simp [compare_of_gt hgt, hgt]

theorem compare_isGE_iff (h : this.hour = none) (h' : that.hour ≠ none) :
    (this.compare that).isGE = true ↔ that.civil < this.civil := by
  rcases lt_trichotomy this.civil that.civil with hlt | heq | hgt
  · simp [compare_of_lt hlt, hlt.le]
  · simp [compare_of_eq heq, compareHours_of_none h h', heq]
  · simp [compare_of_gt hgt, hgt]

end DayMonthYear

/-! ### Arithmetic on years -/

/-- The fields of a time that was adjusted. -/
structure AdjustedTime where
  year : ℤ
  monthOfYear : ℤ
  dayOfMonth : ℤ

/-- What the application relies on in Joda-Time: which local times there are, and how years
are subtracted from one. No clock is near the first year, below which Joda-Time raises. -/
structure Chronology (joda : Joda) where
  minusYears : joda.DateTime → ℤ → AdjustedTime
  /-- The clocks of the server go forward over the local time. -/
  Skips : (year month day hour minute : ℤ) → Prop
  isSome_dateTime_iff : ∀ year month day hour minute, -292275054 < year → year < 292278993 →
    ((joda.dateTime year month day hour minute).isSome ↔ IsCivilDate year month day ∧
      (0 ≤ hour ∧ hour ≤ 23) ∧ (0 ≤ minute ∧ minute ≤ 59) ∧ ¬ Skips year month day hour minute)
  fields_dateTime : ∀ year month day hour minute t,
    joda.dateTime year month day hour minute = some t →
      joda.year t = year ∧ joda.monthOfYear t = month ∧ joda.dayOfMonth t = day
  year_minusYears : ∀ t years, (minusYears t years).year = joda.year t - years
  monthOfYear_minusYears : ∀ t years, (minusYears t years).monthOfYear = joda.monthOfYear t
  /-- The 29th of February becomes the 28th where there is none. -/
  dayOfMonth_minusYears : ∀ t years, (minusYears t years).dayOfMonth =
    min (joda.dayOfMonth t) (Utc.daysInMonth (joda.year t - years) (joda.monthOfYear t))

namespace DayMonthYear

variable {joda : Joda} (chronology : Chronology joda)

def adjust (f : joda.DateTime → AdjustedTime) (date : DayMonthYear) : DayMonthYear :=
  match date.toDateTime joda with
  | some dt =>
      let newDateTime := f dt
      { day := newDateTime.dayOfMonth
        month := newDateTime.monthOfYear
        year := newDateTime.year
        hour := date.hour
        minutes := date.minutes }
  | none => date

/-- `(date - amount).years`. -/
def minusYears (date : DayMonthYear) (amount : ℤ) : DayMonthYear :=
  adjust (chronology.minusYears · amount) date

/-- Today some years ago, at the time of today. -/
theorem minusYears_today (now : joda.DateTime) (amount : ℤ) :
    ((today now).minusYears chronology amount).civil =
        civilDate (joda.year now - amount) (joda.monthOfYear now)
          (min (joda.dayOfMonth now)
            (Utc.daysInMonth (joda.year now - amount) (joda.monthOfYear now))) ∧
      ((today now).minusYears chronology amount).hour = some (joda.hourOfDay now) := by
  obtain ⟨dt, hdt⟩ := Option.isSome_iff_exists.mp (isSome_toDateTime_today now)
  obtain ⟨hyear, hmonth, hday⟩ := chronology.fields_dateTime _ _ _ _ _ _ hdt
  have hadjust : (today now).minusYears chronology amount =
      { day := (chronology.minusYears dt amount).dayOfMonth
        month := (chronology.minusYears dt amount).monthOfYear
        year := (chronology.minusYears dt amount).year
        hour := (today now).hour
        minutes := (today now).minutes } := by
    rw [minusYears, adjust, hdt]
  refine ⟨?_, by rw [hadjust]; rfl⟩
  rw [hadjust, civil]
  simp only [chronology.year_minusYears, chronology.monthOfYear_minusYears,
    chronology.dayOfMonth_minusYears, hyear, hmonth, hday]
  rfl

end DayMonthYear

/-! ### The calendar in UTC -/

namespace Utc

theorem isSome_dateTime_iff (year month day hour minute : ℤ) :
    (dateTime year month day hour minute).isSome ↔ (minYear ≤ year ∧ year ≤ maxYear) ∧
      IsCivilDate year month day ∧ (0 ≤ hour ∧ hour ≤ 23) ∧ (0 ≤ minute ∧ minute ≤ 59) := by
  rw [dateTime, IsCivilDate]
  split
  · simp_all
  · simp_all

theorem dateTime_eq_some {year month day hour minute : ℤ} {t : DateTime}
    (h : dateTime year month day hour minute = some t) :
    t.year = year ∧ t.month = month ∧ t.day = day := by
  rw [dateTime] at h
  split at h
  · cases h
    exact ⟨rfl, rfl, rfl⟩
  · cases h

def minusYears (t : DateTime) (years : ℤ) : AdjustedTime where
  year := t.year - years
  monthOfYear := t.month
  dayOfMonth := min t.day (daysInMonth (t.year - years) t.month)

/-- The clocks of UTC skip nothing. -/
def chronology : Chronology utc where
  minusYears := minusYears
  Skips _ _ _ _ _ := False
  isSome_dateTime_iff year month day hour minute hmin hmax := by
    rw [not_false_eq_true, and_true]
    exact (isSome_dateTime_iff year month day hour minute).trans
      (and_iff_right ⟨hmin.le, hmax.le⟩)
  fields_dateTime _ _ _ _ _ _ h := dateTime_eq_some h
  year_minusYears _ _ := rfl
  monthOfYear_minusYears _ _ := rfl
  dayOfMonth_minusYears _ _ := rfl

end Utc

end VehiclesOnline
