import VehiclesOnline.Wizard.DateOrder

/-! # The years of the date of disposal

The list of years that the dispose page offers, and that it has the year of each date which its
form accepts. -/

namespace VehiclesOnline

variable {joda : Joda}

namespace DayMonthYear

/-! ### The list -/

/-- A sum or a difference of two `Int`s. -/
def toInt (n : ℤ) : ℤ := n.bmod (2 ^ 32)

theorem toInt_eq {n : ℤ} (h : -2147483648 ≤ n) (h' : n ≤ 2147483647) : toInt n = n := by
  rw [toInt, Int.bmod_eq_iff (by decide)]
  omega

def dropdownFormat (date : DayMonthYear) (yearsIntoThePast : ℕ) : List (String × String) :=
  let yearInPast := toString (toInt (date.year - yearsIntoThePast))
  [(yearInPast, yearInPast)]

/-- For numbers of years that are not negative. -/
def yearRangeToDropdown (date : DayMonthYear) (yearsIntoThePast : ℕ)
    (accumulator : List (String × String) := []) : List (String × String) :=
  match yearsIntoThePast with
  | 0 => accumulator ++ date.dropdownFormat 0
  | n + 1 => date.yearRangeToDropdown n (accumulator ++ date.dropdownFormat (n + 1))

/-- The years from some years back on, up to the given one. -/
def yearsUpTo (year : ℤ) (yearsIntoThePast : ℕ) : List ℤ :=
  (List.range (yearsIntoThePast + 1)).map fun i : ℕ => year - yearsIntoThePast + i

theorem yearsUpTo_succ (year : ℤ) (n : ℕ) :
    yearsUpTo year (n + 1) = (year - (n + 1 : ℕ)) :: yearsUpTo year n := by
  rw [yearsUpTo, List.range_succ_eq_map, List.map_cons, List.map_map, yearsUpTo]
  congr 1
  · simp
  · refine List.map_congr_left fun i _ => ?_
    simp only [Function.comp_apply]
    omega

theorem mem_yearsUpTo {year y : ℤ} {n : ℕ} : y ∈ yearsUpTo year n ↔ year - n ≤ y ∧ y ≤ year := by
  simp only [yearsUpTo, List.mem_map, List.mem_range]
  constructor
  · rintro ⟨i, hi, rfl⟩
    omega
  · intro h
    exact ⟨(y - (year - n)).toNat, by omega, by omega⟩

theorem pairwise_yearsUpTo (year : ℤ) (n : ℕ) : (yearsUpTo year n).Pairwise (· < ·) := by
  refine List.pairwise_map.mpr (List.pairwise_lt_range.imp fun hlt => ?_)
  omega

variable {date : DayMonthYear}

theorem dropdownFormat_eq {n : ℕ} (h : -2147483648 ≤ date.year - n)
    (h' : date.year ≤ 2147483647) :
    date.dropdownFormat n = [(toString (date.year - n), toString (date.year - n))] := by
  rw [dropdownFormat, toInt_eq h (by omega)]

/-- What was accumulated is followed by the years, each with itself. -/
theorem yearRangeToDropdown_eq (n : ℕ) (accumulator : List (String × String))
    (h : -2147483648 ≤ date.year - n) (h' : date.year ≤ 2147483647) :
    date.yearRangeToDropdown n accumulator =
      accumulator ++ (yearsUpTo date.year n).map fun y => (toString y, toString y) := by
  induction n generalizing accumulator with
  | zero =>
      rw [yearRangeToDropdown, dropdownFormat_eq h h']
      simp [yearsUpTo]
  | succ n ih =>
      rw [yearRangeToDropdown, ih _ (by omega), dropdownFormat_eq h h', yearsUpTo_succ,
        List.append_assoc, List.map_cons, List.singleton_append]

/-- The years of the list are those from some years back on. -/
theorem mem_yearRangeToDropdown {n : ℕ} {y : ℤ} (h : -2147483648 ≤ date.year - n)
    (h' : date.year ≤ 2147483647) (hmem : y ∈ yearsUpTo date.year n) :
    (toString y, toString y) ∈ date.yearRangeToDropdown n := by
  rw [yearRangeToDropdown_eq n [] h h', List.nil_append]
  exact List.mem_map_of_mem hmem

theorem year_le_of_key_le {earliest latest : DayMonthYear} (h : earliest.key ≤ latest.key) :
    earliest.year ≤ latest.year := by
  rcases Prod.Lex.toLex_le_toLex.mp (civil_le_of_key_le h) with hlt | ⟨heq, -⟩
  · exact hlt.le
  · exact heq.le

end DayMonthYear

/-! ### The dates that the form accepts -/

namespace Dispose

variable {chronology : Chronology joda} {constructed bound : DateService joda} {data : FormData}

/-- The year of a date that the form accepts, by the clock when the form was made and when it was
bound. -/
theorem year_mem_of_accepted {date : DayMonthYear}
    (h : (dateOfDisposal chronology constructed bound).field DateOfDisposalId "" data = .ok date) :
    999 < date.year ∧ date.year < 9999 ∧ joda.year constructed.dateTimeNow - 2 ≤ date.year ∧
      date.year ≤ joda.year bound.dateTimeNow := by
  obtain ⟨-, ⟨-, hmin, hmax⟩, hafter, hnotInFuture⟩ := dateOfDisposal_bind_eq_ok_iff.mp h
  have hearliest := DayMonthYear.year_le_of_key_le (DayMonthYear.ge_iff.mp hafter)
  have hlatest := DayMonthYear.year_le_of_key_le (DayMonthYear.le_iff.mp hnotInFuture)
  obtain ⟨hyear, -, -⟩ := civilDate_inj.mp (DayMonthYear.minusYears_today chronology
    constructed.dateTimeNow DateOfDisposalYearsIntoThePast).1
  exact ⟨hmin, hmax, hyear ▸ hearliest, hlatest⟩

/-- The list is the years up to that of the date, and the one of today has the year of every date
that the form accepts, also when it is shown at another time of the same year. -/
theorem yearRangeToDropdown_matches_window (joda : Joda) :
    (∀ (date : DayMonthYear) (n : ℕ) (accumulator : List (String × String)),
      -2147483648 ≤ date.year - n → date.year ≤ 2147483647 →
      date.yearRangeToDropdown n accumulator =
        accumulator ++ (DayMonthYear.yearsUpTo date.year n).map fun y => (toString y, toString y)) ∧
      (∀ (year : ℤ) (n : ℕ), (DayMonthYear.yearsUpTo year n).Pairwise (· < ·) ∧
        ∀ y, y ∈ DayMonthYear.yearsUpTo year n ↔ year - n ≤ y ∧ y ≤ year) ∧
      ∀ (chronology : Chronology joda) (dateService shown : DateService joda) (data : FormData)
        (date : DayMonthYear),
        (dateOfDisposal chronology dateService dateService).field DateOfDisposalId "" data =
          .ok date →
        joda.year shown.dateTimeNow = joda.year dateService.dateTimeNow →
        (toString date.year, toString date.year) ∈
          shown.today.yearRangeToDropdown DateOfDisposalYearsIntoThePast.toNat := by
  refine ⟨fun _ n accumulator h h' => DayMonthYear.yearRangeToDropdown_eq n accumulator h h',
    fun year n => ⟨DayMonthYear.pairwise_yearsUpTo year n, fun _ => DayMonthYear.mem_yearsUpTo⟩,
    ?_⟩
  intro chronology dateService shown data date haccepted hyear
  obtain ⟨hmin, hmax, hearliest, hlatest⟩ := year_mem_of_accepted haccepted
  have htoday : shown.today.year = joda.year dateService.dateTimeNow := hyear
  have htwo : ((DateOfDisposalYearsIntoThePast.toNat : ℕ) : ℤ) = 2 := rfl
  refine DayMonthYear.mem_yearRangeToDropdown ?_ ?_ (DayMonthYear.mem_yearsUpTo.mpr ⟨?_, ?_⟩)
  · omega
  · omega
  · omega
  · omega

section Dealer

open Dealer

def newYearsEve : DateService utc where
  dateTimeNow :=
    { noon.dateTimeNow with
      month := 12
      day := 31
      hour := 20
      month_mem := by decide
      day_mem := by decide
      hour_mem := by decide }
  nowMillis := 1420056000000
  dateTimeISOChronology := "2014-12-31T20:00:00.000Z"

def newYear : DateService utc where
  dateTimeNow :=
    { noon.dateTimeNow with
      year := 2015
      month := 1
      day := 1
      hour := 8
      year_mem := by decide
      month_mem := by decide
      day_mem := by decide
      hour_mem := by decide }
  nowMillis := 1420099200000
  dateTimeISOChronology := "2015-01-01T08:00:00.000Z"

/-- The night two years before. -/
def lastOf2012 : FormData :=
  ⟨[⟨"dateOfDisposal.day", "31"⟩, ⟨"dateOfDisposal.month", "12"⟩, ⟨"dateOfDisposal.year", "2012"⟩,
      ⟨"dateOfDisposal.hour", "23"⟩],
    by simp [List.NodupKeys, List.keys]⟩

/-- Years below the least `Int` are the greatest ones, and at New Year the page does not offer the
year of a date that was accepted the evening before. -/
theorem yearRangeToDropdown_wraps :
    DayMonthYear.yearRangeToDropdown { day := 1, month := 1, year := -2147483648 } 1 =
        [("2147483647", "2147483647"), ("-2147483648", "-2147483648")] ∧
      (dateOfDisposal Utc.chronology newYearsEve newYearsEve).field DateOfDisposalId ""
          lastOf2012 = .ok { day := 31, month := 12, year := 2012, hour := some 23 } ∧
      ("2012", "2012") ∉
        newYear.today.yearRangeToDropdown DateOfDisposalYearsIntoThePast.toNat := by
  exact ⟨by decide, rfl, by decide⟩

theorem yearRangeToDropdown_matches_window_newYearsEve :
    newYearsEve.today.yearRangeToDropdown 2 [] =
        [] ++ (DayMonthYear.yearsUpTo 2014 2).map (fun y => (toString y, toString y)) ∧
      (toString (2012 : ℤ), toString (2012 : ℤ)) ∈
        newYearsEve.today.yearRangeToDropdown DateOfDisposalYearsIntoThePast.toNat :=
  have h := yearRangeToDropdown_matches_window utc
  ⟨h.1 newYearsEve.today 2 [] (by decide) (by decide),
    h.2.2 Utc.chronology newYearsEve newYearsEve lastOf2012
      { day := 31, month := 12, year := 2012, hour := some 23 } rfl rfl⟩

end Dealer

end Dispose

end VehiclesOnline
