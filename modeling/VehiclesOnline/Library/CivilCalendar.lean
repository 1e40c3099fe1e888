import Mathlib.Algebra.Order.Ring.Int
import Mathlib.Tactic.IntervalCases
import Mathlib.Tactic.SplitIfs

/-! # Calendars

Calendars of the civil months, which differ in their leap years. Their days are counted, and a day
is found again by its count. -/

namespace CivilCalendar

/-- A day of a calendar. -/
@[ext]
structure Date where
  year : ℤ
  month : ℤ
  day : ℤ
  deriving DecidableEq

def Date.Before (date date' : Date) : Prop :=
  date.year < date'.year ∨ date.year = date'.year ∧
    (date.month < date'.month ∨ date.month = date'.month ∧ date.day < date'.day)

/-- Which years are leap years, how many days go before a year, and the year of a day. -/
structure LeapRule where
  isLeap : ℤ → Bool
  daysBeforeYear : ℤ → ℤ
  yearOf : ℤ → ℤ
  daysBeforeYear_add_one : ∀ year,
    daysBeforeYear (year + 1) = daysBeforeYear year + 365 + if isLeap year then 1 else 0
  yearOf_spec : ∀ n, daysBeforeYear (yearOf n) < n ∧ n ≤ daysBeforeYear (yearOf n + 1)

namespace LeapRule

variable (rule : LeapRule)

def leapDays (year : ℤ) : ℤ := if rule.isLeap year then 1 else 0

def daysInMonth (year month : ℤ) : ℤ :=
  if month = 2 then 28 + rule.leapDays year
  else if month ∈ [4, 6, 9, 11] then 30
  else 31

/-- As if February had 30 days, less what it lacks. -/
def daysBeforeMonth (year month : ℤ) : ℤ :=
  (367 * month - 362) / 12 - if month ≤ 2 then 0 else 2 - rule.leapDays year

/-- The number of a day. -/
def dayNumber (date : Date) : ℤ :=
  rule.daysBeforeYear date.year + rule.daysBeforeMonth date.year date.month + date.day

def IsDate (date : Date) : Prop :=
  (1 ≤ date.month ∧ date.month ≤ 12) ∧
    1 ≤ date.day ∧ date.day ≤ rule.daysInMonth date.year date.month

instance (date : Date) : Decidable (rule.IsDate date) := inferInstanceAs (Decidable (_ ∧ _))

/-- The month of a day of the year, with the days that February lacks put in. -/
def monthOf (year dayOfYear : ℤ) : ℤ :=
  let lacking := if dayOfYear ≤ rule.daysBeforeMonth year 3 then 0 else 2 - rule.leapDays year
  (12 * (dayOfYear - 1 + lacking) + 373) / 367

/-- The day of a number. -/
def dateOf (n : ℤ) : Date :=
  let year := rule.yearOf n
  let dayOfYear := n - rule.daysBeforeYear year
  let month := rule.monthOf year dayOfYear
  { year := year
    month := month
    day := dayOfYear - rule.daysBeforeMonth year month }

/-! ### Months -/

variable {rule} {year month month' : ℤ}

theorem leapDays_mem (year : ℤ) : 0 ≤ rule.leapDays year ∧ rule.leapDays year ≤ 1 := by
  rw [leapDays]
  split <;> decide

theorem daysInMonth_mem (year month : ℤ) :
    1 ≤ rule.daysInMonth year month ∧ rule.daysInMonth year month ≤ 31 := by
  have hleap := rule.leapDays_mem year
  rw [daysInMonth]
  split_ifs <;> omega

theorem daysBeforeMonth_add_one (h : 1 ≤ month) (h' : month ≤ 11) :
    rule.daysBeforeMonth year (month + 1) =
      rule.daysBeforeMonth year month + rule.daysInMonth year month := by
  rw [daysBeforeMonth, daysBeforeMonth, daysInMonth]
  interval_cases month <;> simp <;> omega

theorem daysBeforeMonth_le (year : ℤ) (h : month ≤ month') :
    rule.daysBeforeMonth year month ≤ rule.daysBeforeMonth year month' := by
  have hleap := rule.leapDays_mem year
  rw [daysBeforeMonth, daysBeforeMonth]
  split_ifs <;> omega

theorem daysBeforeMonth_nonneg (year : ℤ) (h : 1 ≤ month) : 0 ≤ rule.daysBeforeMonth year month :=
  daysBeforeMonth_le year h

/-- The last day of December ends the year. -/
theorem daysBeforeMonth_twelve (year : ℤ) :
    rule.daysBeforeMonth year 12 + rule.daysInMonth year 12 = 365 + rule.leapDays year := by
  rw [daysBeforeMonth, daysInMonth, if_neg (by decide), if_neg (by decide), if_neg (by decide)]
  omega

/-- The month of a day begins before it and does not end before it. -/
theorem monthOf_spec (rule : LeapRule) (year : ℤ) {dayOfYear : ℤ} (h : 1 ≤ dayOfYear)
    (h' : dayOfYear ≤ 365 + rule.leapDays year) :
    (1 ≤ rule.monthOf year dayOfYear ∧ rule.monthOf year dayOfYear ≤ 12) ∧
      rule.daysBeforeMonth year (rule.monthOf year dayOfYear) < dayOfYear ∧
      dayOfYear ≤ rule.daysBeforeMonth year (rule.monthOf year dayOfYear) +
        rule.daysInMonth year (rule.monthOf year dayOfYear) := by
  have hleap := rule.leapDays_mem year
  have hthree : rule.daysBeforeMonth year 3 = 59 + rule.leapDays year := by
    rw [daysBeforeMonth, if_neg (by decide)]
    omega
  obtain ⟨month, hmonth⟩ : ∃ month, rule.monthOf year dayOfYear = month := ⟨_, rfl⟩
  rw [hmonth]
  rw [monthOf, hthree] at hmonth
  have hmem : 1 ≤ month ∧ month ≤ 12 := by
    split_ifs at hmonth <;> omega
  refine ⟨hmem, ?_⟩
  obtain ⟨hfirst, hlast⟩ := hmem
  rw [daysBeforeMonth, daysInMonth]
  interval_cases month <;> simp <;> split_ifs at hmonth <;> omega

/-! ### Days -/

theorem dayNumber_dateOf (n : ℤ) : rule.dayNumber (rule.dateOf n) = n := by
  simp only [dayNumber, dateOf]
  omega

theorem dateOf_injective (rule : LeapRule) : Function.Injective rule.dateOf :=
  Function.LeftInverse.injective dayNumber_dateOf

theorem isDate_dateOf (n : ℤ) : rule.IsDate (rule.dateOf n) := by
  obtain ⟨hfirst, hlast⟩ := rule.yearOf_spec n
  rw [rule.daysBeforeYear_add_one] at hlast
  have hpos : 1 ≤ n - rule.daysBeforeYear (rule.yearOf n) := by omega
  have hle : n - rule.daysBeforeYear (rule.yearOf n) ≤ 365 + rule.leapDays (rule.yearOf n) := by
    rw [leapDays]
    omega
  obtain ⟨hmonth, hbefore, hday⟩ := rule.monthOf_spec (rule.yearOf n) hpos hle
  refine ⟨hmonth, ?_⟩
  simp only [dateOf]
  omega

/-! ### The order of days -/

theorem daysBeforeYear_le {year' : ℤ} (h : year ≤ year') :
    rule.daysBeforeYear year ≤ rule.daysBeforeYear year' := by
  have hmono : Monotone rule.daysBeforeYear := by
    refine monotone_int_of_le_succ fun year => ?_
    rw [rule.daysBeforeYear_add_one]
    split <;> omega
  exact hmono h

/-- The days of a month end before the next one begins. -/
theorem daysBeforeMonth_add_le {date : Date} (h : rule.IsDate date) (hmonth : date.month < month)
    (hmonth' : month ≤ 12) :
    rule.daysBeforeMonth date.year date.month + date.day ≤
      rule.daysBeforeMonth date.year month := by
  obtain ⟨⟨hpos, -⟩, -, hday⟩ := h
  have hnext := rule.daysBeforeMonth_le date.year (Int.add_one_le_of_lt hmonth)
  rw [daysBeforeMonth_add_one hpos (by omega)] at hnext
  omega

theorem daysBeforeMonth_add_le_year {date : Date} (h : rule.IsDate date) :
    rule.daysBeforeMonth date.year date.month + date.day ≤ 365 + rule.leapDays date.year := by
  obtain ⟨hmonth, hpos, hday⟩ := h
  rw [← daysBeforeMonth_twelve]
  rcases hmonth.2.lt_or_eq with hlt | heq
  · have hbefore := daysBeforeMonth_add_le ⟨hmonth, hpos, hday⟩ hlt le_rfl
    have hdays := rule.daysInMonth_mem date.year 12
    omega
  · rw [heq] at hday ⊢
    omega

/-- Days are counted in the order of the calendar. -/
theorem dayNumber_lt {date date' : Date} (h : rule.IsDate date) (h' : rule.IsDate date')
    (hbefore : date.Before date') : rule.dayNumber date < rule.dayNumber date' := by
  have hpos : 1 ≤ date'.day := h'.2.1
  rw [dayNumber, dayNumber]
  rcases hbefore with hyear | ⟨hyear, hmonth | ⟨hmonth, hday⟩⟩
  · have hnext := rule.daysBeforeYear_le (Int.add_one_le_of_lt hyear)
    have hdays := daysBeforeMonth_add_le_year h
    have hdays' := rule.daysBeforeMonth_nonneg date'.year h'.1.1
    rw [daysBeforeYear_add_one] at hnext
    rw [leapDays] at hdays
    omega
  · have hdays := daysBeforeMonth_add_le h hmonth h'.1.2
    rw [← hyear]
    omega
  · rw [hyear, hmonth]
    omega

end LeapRule

/-! ### The Gregorian calendar -/

def gregorianDaysThrough (year : ℤ) : ℤ := 365 * year + year / 4 - year / 100 + year / 400

/-- The last year before which there are certainly fewer days, or one of the next two. -/
def gregorianYearOf (n : ℤ) : ℤ :=
  let year := 400 * n / 146097
  if n ≤ gregorianDaysThrough year then year
  else if n ≤ gregorianDaysThrough (year + 1) then year + 1
  else year + 2

theorem gregorianYearOf_spec (n : ℤ) :
    gregorianDaysThrough (gregorianYearOf n - 1) < n ∧
      n ≤ gregorianDaysThrough (gregorianYearOf n) := by
  obtain ⟨year, hyear⟩ : ∃ year, 400 * n / 146097 = year := ⟨_, rfl⟩
  have hbefore : gregorianDaysThrough (year - 1) < n := by
    rw [gregorianDaysThrough]
    omega
  have hthrough : n ≤ gregorianDaysThrough (year + 2) := by
    rw [gregorianDaysThrough]
    omega
  simp only [gregorianYearOf, hyear]
  split_ifs with h h'
  · exact ⟨hbefore, h⟩
  · exact ⟨by rw [add_sub_cancel_right]; exact not_le.mp h, h'⟩
  · have hpred : year + 2 - 1 = year + 1 := by omega
    exact ⟨by rw [hpred]; exact not_le.mp h', hthrough⟩

/-- A century is a leap year where it is the fourth. -/
def gregorian : LeapRule where
  isLeap year := year % 4 = 0 && (year % 100 ≠ 0 || year % 400 = 0)
  daysBeforeYear year := gregorianDaysThrough (year - 1)
  yearOf := gregorianYearOf
  daysBeforeYear_add_one year := by
    simp only [gregorianDaysThrough, Bool.and_eq_true, Bool.or_eq_true, decide_eq_true_eq]
    split <;> omega
  yearOf_spec n := by
    rw [add_sub_cancel_right]
    exact gregorianYearOf_spec n

/-- Every fourth year is a leap year. -/
def julian : LeapRule where
  isLeap year := year % 4 = 0
  daysBeforeYear year := 365 * (year - 1) + (year - 1) / 4
  yearOf n := (4 * (n - 1) + 1464) / 1461
  daysBeforeYear_add_one year := by
    simp only [decide_eq_true_eq]
    split <;> omega
  yearOf_spec n := by omega

/-! ### The change of calendars -/

/-- The day after 4 October 1582 of the Julian calendar is 15 October of the Gregorian one. -/
def lastJulian : Date := ⟨1582, 10, 4⟩

def firstGregorian : Date := ⟨1582, 10, 15⟩

/-- The date of a day, counted from the first day of the year 1 of the Gregorian calendar, which
is the third one of the Julian calendar. -/
def dateOf (n : ℤ) : Date :=
  if n < gregorian.dayNumber firstGregorian then julian.dateOf (n + 2) else gregorian.dateOf n

theorem not_julian_and_gregorian {n n' : ℤ} (h : n < gregorian.dayNumber firstGregorian)
    (h' : gregorian.dayNumber firstGregorian ≤ n') :
    julian.dateOf (n + 2) ≠ gregorian.dateOf n' := by
  intro heq
  have hjulian : ¬ lastJulian.Before (julian.dateOf (n + 2)) := by
    intro hbefore
    have hlt : julian.dayNumber lastJulian < julian.dayNumber (julian.dateOf (n + 2)) :=
      LeapRule.dayNumber_lt (by decide) (LeapRule.isDate_dateOf (n + 2)) hbefore
    rw [LeapRule.dayNumber_dateOf] at hlt
    have hlast : julian.dayNumber lastJulian = gregorian.dayNumber firstGregorian + 1 := rfl
    omega
  have hgregorian : ¬ (gregorian.dateOf n').Before firstGregorian := by
    intro hbefore
    have hlt := LeapRule.dayNumber_lt (LeapRule.isDate_dateOf n') (by decide) hbefore
    rw [LeapRule.dayNumber_dateOf] at hlt
    omega
  rw [heq] at hjulian
  simp only [Date.Before, lastJulian, firstGregorian] at hjulian hgregorian
  omega

/-- No two days have one date. -/
theorem dateOf_injective : Function.Injective dateOf := by
  intro n n' heq
  rw [dateOf, dateOf] at heq
  split_ifs at heq with h h' h'
  · exact add_right_cancel (julian.dateOf_injective heq)
  · exact absurd heq (not_julian_and_gregorian h (not_lt.mp h'))
  · exact absurd heq.symm (not_julian_and_gregorian h' (not_lt.mp h))
  · exact gregorian.dateOf_injective heq

example : dateOf 577735 = ⟨1582, 10, 4⟩ ∧ dateOf 577736 = ⟨1582, 10, 15⟩ := by decide

theorem dateOf_mem (n : ℤ) :
    (1 ≤ (dateOf n).month ∧ (dateOf n).month ≤ 12) ∧ 1 ≤ (dateOf n).day := by
  rw [dateOf]
  split
  · exact ⟨(LeapRule.isDate_dateOf _).1, (LeapRule.isDate_dateOf _).2.1⟩
  · exact ⟨(LeapRule.isDate_dateOf _).1, (LeapRule.isDate_dateOf _).2.1⟩

end CivilCalendar
