import Mathlib.Data.Int.ConditionallyCompleteOrder
import Mathlib.Order.Compare
import Mathlib.Order.WithBot
import VehiclesOnline.Wizard.DisposeForm
import VehiclesOnline.Wizard.Instants

/-! # The order of dates

The comparison of dates is that of a linear order on what it looks at, and agrees with the clock
but where a date has minutes without an hour. -/

namespace VehiclesOnline

variable {joda : Joda}

namespace DayMonthYear

/-! ### What the comparison looks at -/

/-- What is missing is less than what is there. -/
def minutesKey (date : DayMonthYear) : WithBot ℤ := date.minutes.elim ⊥ WithBot.some

/-- The hour, and with it the minutes. -/
def timeKey (date : DayMonthYear) : WithBot (ℤ ×ₗ WithBot ℤ) :=
  date.hour.elim ⊥ fun hour => WithBot.some (toLex (hour, date.minutesKey))

def key (date : DayMonthYear) : CivilDate ×ₗ WithBot (ℤ ×ₗ WithBot ℤ) :=
  toLex (date.civil, date.timeKey)

theorem cmp_toLex {α β : Type} [LinearOrder α] [LinearOrder β] (a : α) (b b' : β) :
    cmp (toLex (a, b)) (toLex (a, b')) = cmp b b' := by
  simp [cmp, cmpUsing, Prod.Lex.toLex_lt_toLex]

theorem cmp_some {α : Type} [LinearOrder α] (a a' : α) :
    cmp (WithBot.some a) (WithBot.some a') = cmp a a' := by
  simp [cmp, cmpUsing]

variable {this that other : DayMonthYear}

theorem compareMinutes_eq_cmp :
    compareMinutes this that = cmp this.minutesKey that.minutesKey := by
  rw [compareMinutes, minutesKey, minutesKey]
  cases this.minutes with
  | none =>
      cases that.minutes with
      | none => exact (cmp_self_eq_eq _).symm
      | some y => exact (WithBot.bot_lt_coe y).cmp_eq_lt.symm
  | some x =>
      cases that.minutes with
      | none => exact (WithBot.bot_lt_coe x).cmp_eq_gt.symm
      | some y => exact (cmp_eq_compare x y).symm.trans (cmp_some x y).symm

theorem compareHours_eq_cmp : compareHours this that = cmp this.timeKey that.timeKey := by
  rw [compareHours, timeKey, timeKey]
  cases this.hour with
  | none =>
      cases that.hour with
      | none => exact (cmp_self_eq_eq _).symm
      | some thatHours => exact (WithBot.bot_lt_coe _).cmp_eq_lt.symm
  | some thisHours =>
      cases that.hour with
      | none => exact (WithBot.bot_lt_coe _).cmp_eq_gt.symm
      | some thatHours =>
          rw [Option.elim_some, Option.elim_some, cmp_some]
          dsimp only
          rcases lt_trichotomy thisHours thatHours with h | rfl | h
          · rw [compare_lt_iff_lt.mpr h]
            exact (Prod.Lex.toLex_lt_toLex.mpr (.inl h)).cmp_eq_lt.symm
          · rw [compare_eq_iff_eq.mpr rfl, cmp_toLex]
            exact compareMinutes_eq_cmp
          · rw [compare_gt_iff_gt.mpr h]
            exact (Prod.Lex.toLex_lt_toLex.mpr (.inl h)).cmp_eq_gt.symm

/-- The comparison is that of the keys. -/
theorem compare_eq_cmp : this.compare that = cmp this.key that.key := by
  rcases lt_trichotomy this.civil that.civil with h | h | h
  · rw [compare_of_lt h]
    exact (Prod.Lex.toLex_lt_toLex.mpr (.inl h)).cmp_eq_lt.symm
  · rw [compare_of_eq h, key, key, h, cmp_toLex]
    exact compareHours_eq_cmp
  · rw [compare_of_gt h]
    exact (Prod.Lex.toLex_lt_toLex.mpr (.inl h)).cmp_eq_gt.symm

/-! ### The operators -/

/-- `this < that` of `Ordered`; the others are alike. -/
def lt (this that : DayMonthYear) : Bool := this.compare that == .lt

def gt (this that : DayMonthYear) : Bool := this.compare that == .gt

def le (this that : DayMonthYear) : Bool := (this.compare that).isLE

def ge (this that : DayMonthYear) : Bool := (this.compare that).isGE

theorem lt_iff : this.lt that = true ↔ this.key < that.key := by
  rw [lt, compare_eq_cmp, beq_iff_eq, cmp_eq_lt_iff]

theorem gt_iff : this.gt that = true ↔ that.key < this.key := by
  rw [gt, compare_eq_cmp, beq_iff_eq, cmp_eq_gt_iff]

theorem le_iff : this.le that = true ↔ this.key ≤ that.key := by
  rw [le, compare_eq_cmp, Ordering.isLE_iff_ne_gt, cmp_eq_gt_iff, not_lt]

theorem ge_iff : this.ge that = true ↔ that.key ≤ this.key := by
  rw [ge, compare_eq_cmp, Ordering.isGE_iff_ne_lt, cmp_eq_lt_iff, not_lt]

/-- Times do not change the order of days. -/
theorem civil_le_of_key_le (h : this.key ≤ that.key) : this.civil ≤ that.civil := by
  rcases Prod.Lex.toLex_le_toLex.mp h with hlt | ⟨heq, -⟩
  · exact hlt.le
  · exact heq.le

/-- The comparison puts all dates in order, those that it does not tell apart in one place, and
the operators are about that order. -/
theorem compare_totalPreorder :
    (∀ a b : DayMonthYear, b.compare a = (a.compare b).swap) ∧
      (∀ a b c : DayMonthYear, (a.compare b).isLE = true → (b.compare c).isLE = true →
        (a.compare c).isLE = true) ∧
      (∀ a b c : DayMonthYear, a.compare b = .eq → a.compare c = b.compare c) ∧
      ∀ a b : DayMonthYear, (a.lt b = true ↔ b.gt a = true) ∧ (a.le b = true ↔ b.ge a = true) ∧
        (a.le b = true ↔ ¬ b.lt a = true) ∧ (a.ge b = true ↔ ¬ a.lt b = true) ∧
        (a.le b = true ∨ b.le a = true) := by
  refine ⟨?_, ?_, ?_, ?_⟩
  · intro a b
    rw [compare_eq_cmp, compare_eq_cmp, cmp_swap]
  · intro a b c hab hbc
    exact le_iff.mpr ((le_iff.mp hab).trans (le_iff.mp hbc))
  · intro a b c hab
    rw [compare_eq_cmp, cmp_eq_eq_iff] at hab
    rw [compare_eq_cmp, compare_eq_cmp, hab]
  · intro a b
    simp only [lt_iff, gt_iff, le_iff, ge_iff, not_lt, true_and]
    exact le_total a.key b.key

/-! ### Dates on the clock -/

/-- What is missing is read as zero. -/
def timeOnClock (date : DayMonthYear) : LocalTime :=
  localTime date.year date.month date.day (date.hour.getD 0) (date.minutes.getD 0)

theorem timeOnClock_lt_iff :
    this.timeOnClock < that.timeOnClock ↔ this.civil < that.civil ∨ this.civil = that.civil ∧
      (this.hour.getD 0 < that.hour.getD 0 ∨ this.hour.getD 0 = that.hour.getD 0 ∧
        this.minutes.getD 0 < that.minutes.getD 0) := by
  simp only [timeOnClock, localTime, civil, Prod.Lex.toLex_lt_toLex]

theorem timeOnClock_eq_iff :
    this.timeOnClock = that.timeOnClock ↔ this.civil = that.civil ∧
      this.hour.getD 0 = that.hour.getD 0 ∧ this.minutes.getD 0 = that.minutes.getD 0 := by
  simp only [timeOnClock, localTime, civil, EmbeddingLike.apply_eq_iff_eq, Prod.mk.injEq]

/-- The first minute of the day. -/
def midnight (date : DayMonthYear) : DayMonthYear := { date with hour := none, minutes := none }

/-- The minutes of a date without an hour are read as those of the hour zero, and are not later
than the time of that day which the date is compared to. -/
def MinutesAgree (this that : DayMonthYear) : Prop :=
  this.civil = that.civil → this.hour = none →
    (that.hour = none → this.minutes.getD 0 = that.minutes.getD 0) ∧
      ∀ hour ∈ that.hour, 0 < hour ∨ this.minutes.getD 0 ≤ that.minutes.getD 0

/-- What the comparison says is not denied by two times, on the clock or as instants. -/
structure InOrder {α : Type} [LE α] (ordering : Ordering) (time time' : α) : Prop where
  of_lt : ordering = .lt → time ≤ time'
  of_eq : ordering = .eq → time = time'

theorem inOrder_lt_iff {α : Type} [LE α] {time time' : α} :
    InOrder .lt time time' ↔ time ≤ time' := by
  constructor
  · intro hinOrder
    exact hinOrder.of_lt rfl
  · intro hle
    exact ⟨fun _ => hle, fun heq => absurd heq (by decide)⟩

theorem inOrder_eq_iff {α : Type} [LE α] {time time' : α} :
    InOrder .eq time time' ↔ time = time' := by
  constructor
  · intro hinOrder
    exact hinOrder.of_eq rfl
  · intro heq
    exact ⟨fun hlt => absurd hlt (by decide), fun _ => heq⟩

theorem inOrder_gt {α : Type} [LE α] {time time' : α} : InOrder .gt time time' :=
  ⟨fun hlt => absurd hlt (by decide), fun heq => absurd heq (by decide)⟩

theorem inOrder_congr {α β : Type} [LinearOrder α] [LinearOrder β] {ordering : Ordering}
    {x y : α} {x' y' : β} (h : cmp x y = cmp x' y') :
    InOrder ordering x y ↔ InOrder ordering x' y' := by
  have hle := le_iff_le_of_cmp_eq_cmp h
  have heq := eq_iff_eq_of_cmp_eq_cmp h
  constructor
  · intro hinOrder
    exact ⟨fun hlt => hle.mp (hinOrder.of_lt hlt), fun he => heq.mp (hinOrder.of_eq he)⟩
  · intro hinOrder
    exact ⟨fun hlt => hle.mpr (hinOrder.of_lt hlt), fun he => heq.mpr (hinOrder.of_eq he)⟩

/-- On one day the hours and minutes decide. -/
theorem timeOnClock_le_iff (h : this.civil = that.civil) :
    this.timeOnClock ≤ that.timeOnClock ↔ this.hour.getD 0 < that.hour.getD 0 ∨
      this.hour.getD 0 = that.hour.getD 0 ∧ this.minutes.getD 0 ≤ that.minutes.getD 0 := by
  rw [le_iff_lt_or_eq, timeOnClock_lt_iff, timeOnClock_eq_iff]
  simp only [h, lt_self_iff_false, false_or, true_and]
  omega

/-- Missing minutes are less than those that are there, and read as no more than those. -/
theorem inOrder_compareMinutes (h : this.civil = that.civil)
    (hhours : this.hour.getD 0 = that.hour.getD 0) (hminutes : 0 ≤ that.minutes.getD 0) :
    InOrder (compareMinutes this that) this.timeOnClock that.timeOnClock := by
  constructor
  · intro hlt
    rw [compareMinutes_eq_cmp, cmp_eq_lt_iff, minutesKey, minutesKey] at hlt
    refine (timeOnClock_le_iff h).mpr (.inr ⟨hhours, ?_⟩)
    cases hthis : this.minutes with
    | none => exact hminutes
    | some x =>
        cases hthat : that.minutes with
        | none => simp [hthis, hthat] at hlt
        | some y =>
            rw [hthis, hthat] at hlt
            exact (WithBot.coe_lt_coe.mp hlt).le
  · intro heq
    rw [compareMinutes_eq_cmp, cmp_eq_eq_iff, minutesKey, minutesKey] at heq
    refine timeOnClock_eq_iff.mpr ⟨h, hhours, ?_⟩
    cases hthis : this.minutes with
    | none =>
        cases hthat : that.minutes with
        | none => rfl
        | some y => simp [hthis, hthat] at heq
    | some x =>
        cases hthat : that.minutes with
        | none => simp [hthis, hthat] at heq
        | some y =>
            rw [hthis, hthat] at heq
            exact WithBot.coe_injective heq

/-- Dates without hours are taken for equal. -/
theorem inOrder_compareHours_of_none (h : this.civil = that.civil) (hthis : this.hour = none)
    (hthat : that.hour = none) :
    InOrder (compareHours this that) this.timeOnClock that.timeOnClock ↔
      MinutesAgree this that := by
  have heq : compareHours this that = .eq := by rw [compareHours, hthis, hthat]
  have hhours : this.hour.getD 0 = that.hour.getD 0 := by rw [hthis, hthat]
  rw [heq, inOrder_eq_iff]
  constructor
  · intro htime _ _
    have hminutes := (timeOnClock_eq_iff.mp htime).2.2
    exact ⟨fun _ => hminutes, fun hour hmem => by simp [hthat] at hmem⟩
  · intro hagree
    exact timeOnClock_eq_iff.mpr ⟨h, hhours, (hagree h hthis).1 hthat⟩

/-- A date without an hour is taken for less than one with an hour. -/
theorem inOrder_compareHours_of_some {hour : ℤ} (h : this.civil = that.civil)
    (hthis : this.hour = none) (hthat : that.hour = some hour) (hhour : 0 ≤ hour) :
    InOrder (compareHours this that) this.timeOnClock that.timeOnClock ↔
      MinutesAgree this that := by
  have hlt : compareHours this that = .lt := by rw [compareHours, hthis, hthat]
  rw [hlt, inOrder_lt_iff, timeOnClock_le_iff h]
  constructor
  · intro hle _ _
    refine ⟨fun hnone => by simp [hthat] at hnone, fun hour' hmem => ?_⟩
    rw [hmem, hthis] at hle
    exact hle.imp id And.right
  · intro hagree
    have hle := (hagree h hthis).2 hour hthat
    rw [hthis, hthat, Option.getD_none, Option.getD_some]
    omega

/-- With an hour nothing is denied. -/
theorem inOrder_compareHours_of_hour {thisHours : ℤ} (h : this.civil = that.civil)
    (hthis : this.hour = some thisHours) (hminutes : 0 ≤ that.minutes.getD 0) :
    InOrder (compareHours this that) this.timeOnClock that.timeOnClock := by
  rw [compareHours, hthis]
  cases hthat : that.hour with
  | none => exact inOrder_gt
  | some thatHours =>
      rcases lt_trichotomy thisHours thatHours with hhours | rfl | hhours
      · simp only [compare_lt_iff_lt.mpr hhours]
        refine inOrder_lt_iff.mpr ((timeOnClock_le_iff h).mpr (.inl ?_))
        rw [hthis, hthat]
        exact hhours
      · simp only [compare_eq_iff_eq.mpr]
        exact inOrder_compareMinutes h (by rw [hthis, hthat]) hminutes
      · simp only [compare_gt_iff_gt.mpr hhours]
        exact inOrder_gt

theorem inOrder_compareHours_iff (h : this.civil = that.civil)
    (hhour : ∀ hour ∈ that.hour, 0 ≤ hour) (hminutes : 0 ≤ that.minutes.getD 0) :
    InOrder (compareHours this that) this.timeOnClock that.timeOnClock ↔
      MinutesAgree this that := by
  cases hthis : this.hour with
  | none =>
      cases hthat : that.hour with
      | none => exact inOrder_compareHours_of_none h hthis hthat
      | some hour => exact inOrder_compareHours_of_some h hthis hthat (hhour hour hthat)
  | some thisHours =>
      have hagree : MinutesAgree this that := fun _ hnone => by simp [hthis] at hnone
      exact iff_of_true (inOrder_compareHours_of_hour h hthis hminutes) hagree

theorem inOrder_compare_iff (hhour : ∀ hour ∈ that.hour, 0 ≤ hour)
    (hminutes : 0 ≤ that.minutes.getD 0) :
    InOrder (this.compare that) this.timeOnClock that.timeOnClock ↔ MinutesAgree this that := by
  rcases lt_trichotomy this.civil that.civil with h | h | h
  · rw [compare_of_lt h]
    have hlt : this.timeOnClock ≤ that.timeOnClock := (timeOnClock_lt_iff.mpr (.inl h)).le
    have hne : this.civil ≠ that.civil := h.ne
    exact ⟨fun _ heq => absurd heq hne, fun _ => inOrder_lt_iff.mpr hlt⟩
  · rw [compare_of_eq h]
    exact inOrder_compareHours_iff h hhour hminutes
  · rw [compare_of_gt h]
    exact ⟨fun _ heq => absurd heq h.ne', fun _ => inOrder_gt⟩

section Timeline

variable (timeline : Timeline joda) {s t : joda.DateTime}

/-- The instants that two dates stand for are ordered as the dates on the clock. -/
theorem cmp_getMillis (hs : this.toDateTime joda = some s) (ht : that.toDateTime joda = some t) :
    cmp (timeline.getMillis s) (timeline.getMillis t) =
      cmp this.timeOnClock that.timeOnClock := by
  rcases lt_trichotomy this.timeOnClock that.timeOnClock with h | h | h
  · rw [h.cmp_eq_lt]
    exact (timeline.getMillis_lt _ _ _ _ _ s _ _ _ _ _ t hs ht h).cmp_eq_lt
  · obtain ⟨hcivil, hhour, hminutes⟩ := timeOnClock_eq_iff.mp h
    obtain ⟨hyear, hmonth, hday⟩ := civilDate_inj.mp hcivil
    have hst : s = t := by
      rw [toDateTime, hyear, hmonth, hday, hhour, hminutes] at hs
      exact Option.some.inj (hs.symm.trans ht)
    rw [h, hst, cmp_self_eq_eq, cmp_self_eq_eq]
  · rw [h.cmp_eq_gt]
    exact (timeline.getMillis_lt _ _ _ _ _ t _ _ _ _ _ s ht hs h).cmp_eq_gt

theorem inOrder_getMillis_iff (hs : this.toDateTime joda = some s)
    (ht : that.toDateTime joda = some t) :
    InOrder (this.compare that) (timeline.getMillis s) (timeline.getMillis t) ↔
      MinutesAgree this that := by
  obtain ⟨hhour, hminutes⟩ := timeline.nonneg _ _ _ _ _ t ht
  rw [inOrder_congr (cmp_getMillis timeline hs ht)]
  refine inOrder_compare_iff (fun hour hmem => ?_) hminutes
  rw [hmem] at hhour
  exact hhour

/-- Dates that are equal to today have the time of today. -/
theorem timeOnClock_of_compare_eq {now : joda.DateTime} (h : this.compare (today now) = .eq) :
    this.hour = some (joda.hourOfDay now) ∧ this.timeOnClock = (today now).timeOnClock := by
  rw [compare_eq_cmp, cmp_eq_eq_iff, key, key, EmbeddingLike.apply_eq_iff_eq,
    Prod.mk.injEq] at h
  obtain ⟨hcivil, htime⟩ := h
  rw [timeKey, timeKey] at htime
  cases hhour : this.hour with
  | none =>
      rw [hhour] at htime
      exact absurd htime (WithBot.bot_ne_coe)
  | some hour =>
      rw [hhour] at htime
      have hkey := WithBot.coe_injective htime
      rw [EmbeddingLike.apply_eq_iff_eq, Prod.mk.injEq, minutesKey, minutesKey] at hkey
      obtain ⟨rfl, hminutes⟩ := hkey
      refine ⟨rfl, timeOnClock_eq_iff.mpr ⟨hcivil, by rw [hhour]; rfl, ?_⟩⟩
      cases hthis : this.minutes with
      | none =>
          rw [hthis] at hminutes
          exact absurd hminutes (WithBot.bot_ne_coe)
      | some minutes =>
          rw [hthis] at hminutes
          exact WithBot.coe_injective hminutes

/-- A date that is not in the future is not after the time of today, unless it has minutes
without an hour that are. -/
theorem getMillis_le_today_iff {dateService : DateService joda}
    (h : Constraints.notInFuture dateService this = none) (hs : this.toDateTime joda = some s)
    (ht : dateService.today.toDateTime joda = some t) :
    timeline.getMillis s ≤ timeline.getMillis t ↔ MinutesAgree this dateService.today := by
  rw [Constraints.notInFuture, Constraint.check_eq_none_iff] at h
  cases hcompare : this.compare dateService.today with
  | lt =>
      rw [← inOrder_getMillis_iff timeline hs ht, hcompare, inOrder_lt_iff]
  | eq =>
      obtain ⟨hhour, htime⟩ := timeOnClock_of_compare_eq hcompare
      have hle := le_iff_le_of_cmp_eq_cmp (cmp_getMillis timeline hs ht)
      exact iff_of_true (hle.mpr htime.le) fun _ hnone => by simp [hhour] at hnone
  | gt =>
      rw [hcompare] at h
      cases h

/-- A date that is not before the earliest one is not before the first minute of that day. -/
theorem getMillis_midnight_le {earliest : DayMonthYear}
    (h : Constraints.after earliest this = none) (hs : this.toDateTime joda = some s)
    (ht : earliest.midnight.toDateTime joda = some t) :
    timeline.getMillis t ≤ timeline.getMillis s := by
  rw [Constraints.after, Constraint.check_eq_none_iff] at h
  have hday : earliest.civil ≤ this.civil := civil_le_of_key_le (ge_iff.mp h)
  have hcivil : earliest.midnight.civil ≤ this.civil := hday
  obtain ⟨hhour, hminutes⟩ := timeline.nonneg _ _ _ _ _ s hs
  rw [le_iff_le_of_cmp_eq_cmp (cmp_getMillis timeline ht hs)]
  rcases hcivil.lt_or_eq with hlt | heq
  · exact (timeOnClock_lt_iff.mpr (.inl hlt)).le
  · refine (timeOnClock_le_iff heq).mpr ?_
    simp only [midnight, Option.getD_none]
    omega

end Timeline

/-- The comparison agrees with the clock on two dates exactly when their minutes do; a date that
is not in the future is not later than the minute of today exactly then, and one that is not
before the earliest date is never before its day. -/
theorem compare_agrees_with_clock_iff (timeline : Timeline joda) (date : DayMonthYear)
    (s : joda.DateTime) (hs : date.toDateTime joda = some s) :
    (∀ that t, that.toDateTime joda = some t →
      (InOrder (date.compare that) (timeline.getMillis s) (timeline.getMillis t) ↔
        MinutesAgree date that)) ∧
      (∀ (dateService : DateService joda) (t : joda.DateTime),
        Constraints.notInFuture dateService date = none →
        dateService.today.toDateTime joda = some t →
        (timeline.getMillis s ≤ timeline.getMillis t ↔ MinutesAgree date dateService.today)) ∧
      ∀ earliest t, Constraints.after earliest date = none →
        earliest.midnight.toDateTime joda = some t →
        timeline.getMillis t ≤ timeline.getMillis s :=
  ⟨fun _ _ ht => inOrder_getMillis_iff timeline hs ht,
    fun _ _ h ht => getMillis_le_today_iff timeline h hs ht,
    fun _ _ h ht => getMillis_midnight_le timeline h hs ht⟩

/-- A date with minutes but no hour. -/
def minutesOnly (minutes : ℤ) : DayMonthYear where
  day := 25
  month := 11
  year := 2014
  minutes := some minutes

theorem isYear_twentyFourteen : Utc.minYear ≤ 2014 ∧ 2014 ≤ Utc.maxYear := by decide

def pastMidnight (minute : ℤ) (minute_mem : 0 ≤ minute ∧ minute ≤ 59) : utc.DateTime where
  year := 2014
  month := 11
  day := 25
  hour := 0
  minute := minute
  year_mem := isYear_twentyFourteen
  month_mem := by decide
  day_mem := by decide
  hour_mem := by decide
  minute_mem := minute_mem

theorem isMinute_ten : 0 ≤ (10 : ℤ) ∧ (10 : ℤ) ≤ 59 := by decide

def tenPastMidnight : DateService utc where
  dateTimeNow := pastMidnight 10 isMinute_ten
  nowMillis := 1416874200000
  dateTimeISOChronology := "2014-11-25T00:10:00.000Z"

/-- At ten past midnight, half past is not in the future. -/
theorem half_past_not_in_future :
    (∃ s t, (minutesOnly 30).toDateTime utc = some s ∧ (minutesOnly 10).toDateTime utc = some t ∧
      (minutesOnly 30).compare (minutesOnly 10) = .eq ∧
      Utc.getMillis t < Utc.getMillis s) ∧
    ∃ s t, Constraints.notInFuture tenPastMidnight (minutesOnly 30) = none ∧
      (minutesOnly 30).toDateTime utc = some s ∧
      tenPastMidnight.today.toDateTime utc = some t ∧ Utc.getMillis t < Utc.getMillis s :=
  ⟨⟨pastMidnight 30 (by decide), pastMidnight 10 (by decide), rfl, rfl, rfl, by decide⟩,
    pastMidnight 30 (by decide), pastMidnight 10 (by decide), rfl, rfl, rfl, by decide⟩

/-- Five past midnight is before ten past, by both. -/
theorem compare_agrees_five_past :
    (InOrder ((minutesOnly 5).compare (minutesOnly 5))
        (Utc.getMillis (pastMidnight 5 (by decide)))
        (Utc.getMillis (pastMidnight 5 (by decide))) ↔
      MinutesAgree (minutesOnly 5) (minutesOnly 5)) ∧
      (Utc.getMillis (pastMidnight 5 (by decide)) ≤
          Utc.getMillis (pastMidnight 10 (by decide)) ↔
        MinutesAgree (minutesOnly 5) tenPastMidnight.today) ∧
      Utc.getMillis (pastMidnight 0 (by decide)) ≤
        Utc.getMillis (pastMidnight 5 (by decide)) :=
  have h := compare_agrees_with_clock_iff Utc.timeline (minutesOnly 5)
    (pastMidnight 5 (by decide)) rfl
  ⟨h.1 (minutesOnly 5) (pastMidnight 5 (by decide)) rfl,
    h.2.1 tenPastMidnight (pastMidnight 10 (by decide)) rfl rfl,
    h.2.2 (minutesOnly 30) (pastMidnight 0 (by decide)) rfl rfl⟩

end DayMonthYear

end VehiclesOnline
