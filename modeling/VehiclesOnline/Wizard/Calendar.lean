import VehiclesOnline.Wizard.Models

/-! Points in time, as the application gets them from Joda-Time in the time zone of its
server. -/

namespace VehiclesOnline

/-- The parts of Joda-Time that the application uses. -/
structure Joda where
  DateTime : Type
  /-- `new DateTime(year, month, day, hour, minute)`; raises where no such local time exists. -/
  dateTime : (year month day hour minute : ℤ) → Option DateTime
  year : DateTime → ℤ
  monthOfYear : DateTime → ℤ
  dayOfMonth : DateTime → ℤ
  hourOfDay : DateTime → ℤ
  minuteOfHour : DateTime → ℤ
  /-- `ISODateTimeFormat.dateTime().print`. -/
  isoDateTime : DateTime → String
  isSome_dateTime : ∀ t,
    (dateTime (year t) (monthOfYear t) (dayOfMonth t) (hourOfDay t) (minuteOfHour t)).isSome

variable {joda : Joda}

def DayMonthYear.toDateTime (joda : Joda) (date : DayMonthYear) : Option joda.DateTime :=
  joda.dateTime date.year date.month date.day (date.hour.getD 0) (date.minutes.getD 0)

/-- `DayMonthYear.today` at a reading of the clock. -/
def DayMonthYear.today (now : joda.DateTime) : DayMonthYear where
  day := joda.dayOfMonth now
  month := joda.monthOfYear now
  year := joda.year now
  hour := some (joda.hourOfDay now)
  minutes := some (joda.minuteOfHour now)

theorem DayMonthYear.isSome_toDateTime_today (now : joda.DateTime) :
    ((DayMonthYear.today now).toDateTime joda).isSome :=
  joda.isSome_dateTime now

/-- What `DateServiceImpl` answers at one reading of the clock. -/
structure DateService (joda : Joda) where
  dateTimeNow : joda.DateTime
  nowMillis : ℤ
  dateTimeISOChronology : String

def DateService.today (dateService : DateService joda) : DayMonthYear :=
  DayMonthYear.today dateService.dateTimeNow

/-! ### A server whose time zone is UTC -/

namespace Utc

def isLeap (year : ℤ) : Bool := year % 4 = 0 && (year % 100 ≠ 0 || year % 400 = 0)

def daysInMonth (year month : ℤ) : ℤ :=
  if month = 2 then if isLeap year then 29 else 28
  else if month ∈ [4, 6, 9, 11] then 30
  else 31

/-- The first year of which every time is an instant. -/
def minYear : ℤ := -292275054

/-- The last such year. -/
def maxYear : ℤ := 292278993

/-- The fields of a time of the ISO chronology, to the minute. -/
structure DateTime where
  year : ℤ
  month : ℤ
  day : ℤ
  hour : ℤ
  minute : ℤ
  year_mem : minYear ≤ year ∧ year ≤ maxYear
  month_mem : 1 ≤ month ∧ month ≤ 12
  day_mem : 1 ≤ day ∧ day ≤ daysInMonth year month
  hour_mem : 0 ≤ hour ∧ hour ≤ 23
  minute_mem : 0 ≤ minute ∧ minute ≤ 59
  deriving DecidableEq

def dateTime (year month day hour minute : ℤ) : Option DateTime :=
  if h : (minYear ≤ year ∧ year ≤ maxYear) ∧ (1 ≤ month ∧ month ≤ 12) ∧
      (1 ≤ day ∧ day ≤ daysInMonth year month) ∧ (0 ≤ hour ∧ hour ≤ 23) ∧
      (0 ≤ minute ∧ minute ≤ 59) then
    some ⟨year, month, day, hour, minute, h.1, h.2.1, h.2.2.1, h.2.2.2.1, h.2.2.2.2⟩
  else none

/-- A number with leading zeros. -/
def pad (width : ℕ) (n : ℤ) : String :=
  let digits := Nat.toDigits 10 n.natAbs
  (if n < 0 then "-" else "") ++
    String.ofList (List.replicate (width - digits.length) '0' ++ digits)

def isoDateTime (t : DateTime) : String :=
  pad 4 t.year ++ "-" ++ pad 2 t.month ++ "-" ++ pad 2 t.day ++ "T" ++
    pad 2 t.hour ++ ":" ++ pad 2 t.minute ++ ":00.000Z"

theorem dateTime_fields (t : DateTime) :
    dateTime t.year t.month t.day t.hour t.minute = some t :=
  dif_pos ⟨t.year_mem, t.month_mem, t.day_mem, t.hour_mem, t.minute_mem⟩

end Utc

def utc : Joda where
  DateTime := Utc.DateTime
  dateTime := Utc.dateTime
  year := Utc.DateTime.year
  monthOfYear := Utc.DateTime.month
  dayOfMonth := Utc.DateTime.day
  hourOfDay := Utc.DateTime.hour
  minuteOfHour := Utc.DateTime.minute
  isoDateTime := Utc.isoDateTime
  isSome_dateTime t := by rw [Utc.dateTime_fields]; rfl

end VehiclesOnline
