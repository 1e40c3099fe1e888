import VehiclesOnline.Wizard.Disposal
import VehiclesOnline.Wizard.Steps
import VehiclesOnline.Wizard.Submissions

/-! # The dispose form

Which dates of disposal the form accepts, and which accepted forms can be sent to the dispose
service. -/

namespace VehiclesOnline

variable {joda : Joda}

/-! ### Dates of disposal -/

namespace Dispose

section Dates

variable (chronology : Chronology joda) (constructed bound : DateService joda) (data : FormData)

/-- The texts of the submission say the year, the month and the day. -/
structure NamesDate (year month day : ℤ) : Prop where
  day : number.bindValue "dateOfDisposal.day" data = .ok day
  month : number.bindValue "dateOfDisposal.month" data = .ok month
  year : number.bindValue "dateOfDisposal.year" data = .ok year

/-- The date is submitted without hour and minutes. -/
structure DateOnly : Prop where
  hour : ¬ Mapping.Submitted "dateOfDisposal.hour" data
  minutes : ¬ Mapping.Submitted "dateOfDisposal.minutes" data

def AcceptsDate : Prop :=
  ∃ date, (dateOfDisposal chronology constructed bound).field DateOfDisposalId "" data = .ok date

end Dates

/-- The civil date of a point in time. -/
def civilDateOf (now : joda.DateTime) : CivilDate :=
  civilDate (joda.year now) (joda.monthOfYear now) (joda.dayOfMonth now)

/-- The civil date two years before; the 28th of February where there is no 29th. -/
def twoYearsBefore (now : joda.DateTime) : CivilDate :=
  civilDate (joda.year now - 2) (joda.monthOfYear now)
    (min (joda.dayOfMonth now) (Utc.daysInMonth (joda.year now - 2) (joda.monthOfYear now)))

/-- A date between two years ago and today, by the clock when the form was made and when it
was bound. -/
structure InWindow (constructed bound : DateService joda) (year month day : ℤ) : Prop where
  isCivilDate : IsCivilDate year month day
  minYear : 1000 ≤ year
  maxYear : year ≤ 9998
  earliest : twoYearsBefore constructed.dateTimeNow ≤ civilDate year month day
  latest : civilDate year month day ≤ civilDateOf bound.dateTimeNow

variable {chronology : Chronology joda} {constructed bound : DateService joda} {data : FormData}
variable {year month day : ℤ}

theorem NamesDate.inj {year' month' day' : ℤ} (h : NamesDate data year month day)
    (h' : NamesDate data year' month' day') : year = year' ∧ month = month' ∧ day = day' :=
  ⟨Except.ok.inj (h.year.symm.trans h'.year), Except.ok.inj (h.month.symm.trans h'.month),
    Except.ok.inj (h.day.symm.trans h'.day)⟩

theorem isCivilDate_of_isSome (hmin : 999 < year) (hmax : year < 9999) :
    (joda.dateTime year month day 0 0).isSome ↔
      IsCivilDate year month day ∧ ¬ chronology.Skips year month day 0 0 := by
  rw [chronology.isSome_dateTime_iff year month day 0 0 (by omega) (by omega)]
  simp

/-- What is bound of a date without a time. -/
theorem dayMonthYear_bindValue_of_dateOnly (hdateOnly : DateOnly data) {date : DayMonthYear} :
    DayMonthYear.dayMonthYear.bindValue "dateOfDisposal" data = .ok date ↔
      NamesDate data date.year date.month date.day ∧ (0 < date.day ∧ date.day ≤ 31) ∧
        (0 < date.month ∧ date.month ≤ 12) ∧ 0 < date.year ∧ date.hour = none ∧
        date.minutes = none := by
  have hkeys : Mapping.fieldKey "dateOfDisposal" "day" = "dateOfDisposal.day" ∧
      Mapping.fieldKey "dateOfDisposal" "month" = "dateOfDisposal.month" ∧
      Mapping.fieldKey "dateOfDisposal" "year" = "dateOfDisposal.year" ∧
      Mapping.fieldKey "dateOfDisposal" "hour" = "dateOfDisposal.hour" ∧
      Mapping.fieldKey "dateOfDisposal" "minutes" = "dateOfDisposal.minutes" := by decide
  rw [DayMonthYear.dayMonthYear_bindValue_eq_ok_iff]
  simp only [Mapping.field, hkeys, DayMonthYear.chosen_bind_eq_ok_iff,
    DayMonthYear.timeUpTo_bind_eq_ok_iff, hdateOnly.hour, hdateOnly.minutes, not_false_eq_true,
    true_and, false_and, false_or, List.mem_singleton, forall_eq,
    Constraints.max_eq_none_iff, DayMonthYear.MaxDaysInMonth, DayMonthYear.MaxMonthsInYear,
    List.not_mem_nil, false_implies, implies_true]
  constructor
  · rintro ⟨⟨hday, hmax, hpos⟩, ⟨hmonth, hmax', hpos'⟩, ⟨hyear, hpos''⟩, hhour, hminutes⟩
    exact ⟨⟨hday, hmonth, hyear⟩, ⟨hpos, hmax⟩, ⟨hpos', hmax'⟩, hpos'', hhour, hminutes⟩
  · rintro ⟨hnames, ⟨hpos, hmax⟩, ⟨hpos', hmax'⟩, hpos'', hhour, hminutes⟩
    exact ⟨⟨hnames.day, hmax, hpos⟩, ⟨hnames.month, hmax', hpos'⟩, ⟨hnames.year, hpos''⟩, hhour,
      hminutes⟩

/-- The form accepts the dates of the window but the earliest one, which is less without a time
than with the time of today. -/
theorem acceptsDate_iff (hdateOnly : DateOnly data) :
    AcceptsDate chronology constructed bound data ↔
      ∃ year month day, NamesDate data year month day ∧
        InWindow constructed bound year month day ∧
        civilDate year month day ≠ twoYearsBefore constructed.dateTimeNow ∧
        ¬ chronology.Skips year month day 0 0 := by
  obtain ⟨hcivil, hhour⟩ : (constructed.today.minusYears chronology 2).civil =
      twoYearsBefore constructed.dateTimeNow ∧
        (constructed.today.minusYears chronology 2).hour = some _ :=
    DayMonthYear.minusYears_today chronology constructed.dateTimeNow 2
  have hbind : ∀ date, (dateOfDisposal chronology constructed bound).field DateOfDisposalId ""
      data = .ok date ↔ _ := fun date => dateOfDisposal_bind_eq_ok_iff
  have hcompare : ∀ date : DayMonthYear, date.hour = none →
      ((date.compare (constructed.today.minusYears chronology
          DateOfDisposalYearsIntoThePast)).isGE = true ↔
        twoYearsBefore constructed.dateTimeNow < date.civil) ∧
      ((date.compare bound.today).isLE = true ↔
        date.civil ≤ civilDateOf bound.dateTimeNow) := by
    intro date hnone
    have hsome : (constructed.today.minusYears chronology 2).hour ≠ none := by
      rw [hhour]
      exact Option.some_ne_none _
    refine ⟨?_, DayMonthYear.compare_isLE_iff hnone (Option.some_ne_none _)⟩
    rw [← hcivil]
    exact DayMonthYear.compare_isGE_iff hnone hsome
  simp only [AcceptsDate, hbind]
  constructor
  · rintro ⟨date, hdate, ⟨hmidnight, hmin, hmax⟩, hafter, hnotInFuture⟩
    obtain ⟨hnames, -, -, -, hnone, -⟩ := (dayMonthYear_bindValue_of_dateOnly hdateOnly).mp hdate
    obtain ⟨hisCivil, hskips⟩ := (isCivilDate_of_isSome hmin hmax).mp hmidnight
    rw [(hcompare date hnone).1] at hafter
    rw [(hcompare date hnone).2] at hnotInFuture
    exact ⟨_, _, _, hnames, ⟨hisCivil, hmin, by omega, hafter.le, hnotInFuture⟩, hafter.ne',
      hskips⟩
  · rintro ⟨year, month, day, hnames, hwindow, hne, hskips⟩
    have hbound := Utc.daysInMonth_le year month
    obtain ⟨hmonth, hday⟩ := hwindow.isCivilDate
    have hmin : 999 < year := hwindow.minYear
    have hmax : year < 9999 := Int.lt_add_one_of_le hwindow.maxYear
    have hdays : 0 < day ∧ day ≤ 31 := by omega
    have hmonths : 0 < month ∧ month ≤ 12 := by omega
    have hyears : 0 < year := by omega
    refine ⟨{ day := day, month := month, year := year },
      (dayMonthYear_bindValue_of_dateOnly hdateOnly).mpr
        ⟨hnames, hdays, hmonths, hyears, rfl, rfl⟩, ⟨?_, hmin, hmax⟩, ?_, ?_⟩
    · exact (isCivilDate_of_isSome hmin hmax).mpr ⟨hwindow.isCivilDate, hskips⟩
    · exact (hcompare _ rfl).1.mpr (lt_of_le_of_ne hwindow.earliest hne.symm)
    · exact (hcompare _ rfl).2.mpr hwindow.latest

/-- The form accepts exactly the dates between two years ago and today, as long as a date in the
window is not the earliest one, nor one whose midnight the clocks skip. -/
theorem acceptsDate_iff_inWindow_iff (chronology : Chronology joda)
    (constructed bound : DateService joda) {data : FormData} (hdateOnly : DateOnly data) :
    (AcceptsDate chronology constructed bound data ↔
        ∃ year month day, NamesDate data year month day ∧
          InWindow constructed bound year month day) ↔
      ∀ year month day, NamesDate data year month day →
        InWindow constructed bound year month day →
        civilDate year month day ≠ twoYearsBefore constructed.dateTimeNow ∧
          ¬ chronology.Skips year month day 0 0 := by
  rw [acceptsDate_iff hdateOnly]
  constructor
  · intro h year month day hnames hwindow
    obtain ⟨year', month', day', hnames', -, hdate⟩ := h.mpr ⟨year, month, day, hnames, hwindow⟩
    obtain ⟨rfl, rfl, rfl⟩ := hnames.inj hnames'
    exact hdate
  · intro h
    constructor
    · rintro ⟨year, month, day, hnames, hwindow, -⟩
      exact ⟨year, month, day, hnames, hwindow⟩
    · rintro ⟨year, month, day, hnames, hwindow⟩
      exact ⟨year, month, day, hnames, hwindow, h year month day hnames hwindow⟩

section Dealer

open Dealer

def firstOfSeptember (year : String) : FormData :=
  ⟨[⟨"dateOfDisposal.day", "1"⟩, ⟨"dateOfDisposal.month", "9"⟩, ⟨"dateOfDisposal.year", year⟩],
    by simp [List.NodupKeys, List.keys]⟩

theorem dateOnly_firstOfSeptember (year : String) : DateOnly (firstOfSeptember year) := by
  have hkeys : ∀ entry ∈ (firstOfSeptember year).entries, entry.1 ∈
      ["dateOfDisposal.day", "dateOfDisposal.month", "dateOfDisposal.year"] :=
    fun _ hmem => List.mem_map_of_mem (f := Sigma.fst) hmem
  constructor <;>
  · rintro ⟨⟨name, value⟩, hmem, hkey, -⟩
    have hname := hkeys _ hmem
    simp only [List.mem_cons, List.not_mem_nil, or_false] at hname hkey
    rcases hname with rfl | rfl | rfl <;> exact absurd hkey (by decide)

/-- A date of the year before is in the window. -/
theorem acceptsDate_iff_inWindow_iff_noon :
    (AcceptsDate Utc.chronology noon noon (firstOfSeptember "2013") ↔
        ∃ year month day, NamesDate (firstOfSeptember "2013") year month day ∧
          InWindow noon noon year month day) ↔
      ∀ year month day, NamesDate (firstOfSeptember "2013") year month day →
        InWindow noon noon year month day →
        civilDate year month day ≠ twoYearsBefore noon.dateTimeNow ∧
          ¬ Utc.chronology.Skips year month day 0 0 :=
  acceptsDate_iff_inWindow_iff Utc.chronology noon noon (dateOnly_firstOfSeptember "2013")

/-- At noon the date two years ago is not accepted any more. -/
theorem not_acceptsDate_twoYearsBefore :
    ¬ (AcceptsDate Utc.chronology noon noon (firstOfSeptember "2012") ↔
        ∃ year month day, NamesDate (firstOfSeptember "2012") year month day ∧
          InWindow noon noon year month day) := by
  have hnames : NamesDate (firstOfSeptember "2012") 2012 9 1 := ⟨rfl, rfl, rfl⟩
  have hwindow : InWindow noon noon 2012 9 1 :=
    ⟨by decide, by decide, by decide, le_rfl, by decide⟩
  intro h
  obtain ⟨year, month, day, hnames', -, hne, -⟩ :=
    (acceptsDate_iff (dateOnly_firstOfSeptember "2012")).mp
      (h.mpr ⟨2012, 9, 1, hnames, hwindow⟩)
  obtain ⟨rfl, rfl, rfl⟩ := hnames.inj hnames'
  exact hne rfl

end Dealer

/-! ### Forms that can be sent -/

/-- A text that converts to a truth value. -/
def IsBoolean (s : String) : Prop :=
  s.toList.map Char.toLower = "true".toList ∨ s.toList.map Char.toLower = "false".toList

/-- The service is called, and the exceptions of the call do not escape. -/
def ReachesService (outcome : Outcome Result) : Prop :=
  ∃ disposal trackingId answer r, outcome = ⟨[.dispose disposal trackingId answer], .ok r⟩

/-- Nothing that the form accepts, but that cannot be converted: the hour 24, a time that the
clocks skip, a consent that is no truth value, and an address of one long line. -/
structure Sendable (chronology : Chronology joda) (disposeFormModel : DisposeFormModel)
    (traderAddress : AddressViewModel) : Prop where
  hour : disposeFormModel.dateOfDisposal.hour ≠ some 24
  time : ¬ chronology.Skips disposeFormModel.dateOfDisposal.year
    disposeFormModel.dateOfDisposal.month disposeFormModel.dateOfDisposal.day
    (disposeFormModel.dateOfDisposal.hour.getD 0) (disposeFormModel.dateOfDisposal.minutes.getD 0)
  consent : IsBoolean disposeFormModel.consent
  lossOfRegistrationConsent : IsBoolean disposeFormModel.lossOfRegistrationConsent
  traderAddress : ¬ (traderAddress.address.length = 1 ∧
    DisposalAddressDto.linesOverMaxLength (traderAddress.address.map Utf16.encode) = true)

theorem toBoolean_isOk_iff {s : String} : (∃ b, toBoolean s = .ok b) ↔ IsBoolean s := by
  rw [toBoolean, IsBoolean]
  split
  · next h => exact iff_of_true ⟨true, rfl⟩ (.inl h)
  · next hne =>
    split
    · next h => exact iff_of_true ⟨false, rfl⟩ (.inr h)
    · next hne' =>
      refine iff_of_false ?_ (not_or.mpr ⟨hne, hne'⟩)
      rintro ⟨b, ⟨⟩⟩

section Sending

variable {disposeFormModel : DisposeFormModel}

/-- The time of an accepted date is a time of the clock, but for the hour 24. -/
theorem isSome_toDateTime_iff
    (hvalid : ((form chronology constructed bound).bindForm data).valid = some disposeFormModel) :
    (disposeFormModel.dateOfDisposal.toDateTime joda).isSome ↔
      disposeFormModel.dateOfDisposal.hour ≠ some 24 ∧
        ¬ chronology.Skips disposeFormModel.dateOfDisposal.year
          disposeFormModel.dateOfDisposal.month disposeFormModel.dateOfDisposal.day
          (disposeFormModel.dateOfDisposal.hour.getD 0)
          (disposeFormModel.dateOfDisposal.minutes.getD 0) := by
  obtain ⟨-, hdate⟩ := valid_bindForm hvalid
  generalize disposeFormModel.dateOfDisposal = date at hdate ⊢
  obtain ⟨hbind, ⟨hmidnight, hmin, hmax⟩, -, -⟩ := dateOfDisposal_bind_eq_ok_iff.mp hdate
  obtain ⟨-, -, -, hhour, hminutes⟩ := DayMonthYear.dayMonthYear_bindValue_eq_ok_iff.mp hbind
  obtain ⟨hcivil, -⟩ : IsCivilDate date.year date.month date.day ∧
      ¬ chronology.Skips date.year date.month date.day 0 0 :=
    (isCivilDate_of_isSome hmin hmax).mp hmidnight
  obtain ⟨hhourMin, hhourMax⟩ := DayMonthYear.timeUpTo_bounds (by decide) hhour
  have hminutesBounds := DayMonthYear.timeUpTo_bounds (by decide) hminutes
  have hlast : date.hour ≠ some 24 ↔ date.hour.getD 0 ≠ 24 := by
    cases date.hour with
    | none => simp
    | some hour => simp
  have hhours : (0 ≤ date.hour.getD 0 ∧ date.hour.getD 0 ≤ 23) ↔ date.hour ≠ some 24 := by
    rw [hlast]
    rw [DayMonthYear.MaxHoursInDay] at hhourMax
    omega
  rw [DayMonthYear.toDateTime, chronology.isSome_dateTime_iff _ _ _ _ _ (by omega) (by omega),
    hhours]
  exact ⟨fun h => ⟨h.2.1, h.2.2.2⟩, fun h => ⟨hcivil, h.1, hminutesBounds, h.2⟩⟩

/-- The request is built exactly of what can be converted. -/
theorem buildDisposeMicroServiceRequest_isOk_iff {environment : Environment joda}
    {disposeModel : DisposeModel} {traderDetails : TraderDetailsModel} :
    (∃ disposal, buildDisposeMicroServiceRequest environment disposeModel traderDetails =
        .ok disposal) ↔
      (disposeModel.dateOfDisposal.toDateTime joda).isSome ∧
        (∃ dto, DisposalAddressDto.fromViewModel traderDetails.traderAddress = .ok dto) ∧
        (∃ b, toBoolean disposeModel.lossOfRegistrationConsent = .ok b) ∧
        ∃ b, toBoolean disposeModel.consent = .ok b := by
  obtain ⟨timestamp, htimestamp⟩ := Option.isSome_iff_exists.mp
    (DayMonthYear.isSome_toDateTime_today environment.dateService.dateTimeNow)
  simp only [buildDisposeMicroServiceRequest, DateService.today, htimestamp]
  cases disposeModel.dateOfDisposal.toDateTime joda with
  | none =>
      refine iff_of_false ?_ ?_
      · rintro ⟨disposal, ⟨⟩⟩
      · rintro ⟨⟨⟩, -⟩
  | some dateTime =>
      cases DisposalAddressDto.fromViewModel traderDetails.traderAddress with
      | error cause =>
          refine iff_of_false ?_ ?_
          · rintro ⟨disposal, ⟨⟩⟩
          · rintro ⟨-, ⟨dto, ⟨⟩⟩, -⟩
      | ok dto =>
          cases toBoolean disposeModel.lossOfRegistrationConsent with
          | error cause =>
              refine iff_of_false ?_ ?_
              · rintro ⟨disposal, ⟨⟩⟩
              · rintro ⟨-, -, ⟨prConsent, ⟨⟩⟩, -⟩
          | ok prConsent =>
              cases toBoolean disposeModel.consent with
              | error cause =>
                  refine iff_of_false ?_ ?_
                  · rintro ⟨disposal, ⟨⟩⟩
                  · rintro ⟨-, -, -, keeperConsent, ⟨⟩⟩
              | ok keeperConsent =>
                  exact iff_of_true ⟨_, rfl⟩ ⟨rfl, ⟨dto, rfl⟩, ⟨prConsent, rfl⟩, keeperConsent, rfl⟩

/-- A request that is built reaches the service; one that is not raises outside the recovery. -/
theorem reachesService_iff {environment : Environment joda} {disposeModel : DisposeModel}
    {traderDetails : TraderDetailsModel} {trackingId : String} :
    ReachesService (callMicroService environment disposeModel disposeFormModel traderDetails
        trackingId) ↔
      ∃ disposal, buildDisposeMicroServiceRequest environment disposeModel traderDetails =
        .ok disposal := by
  cases hbuild : buildDisposeMicroServiceRequest environment disposeModel traderDetails with
  | error cause =>
      rw [callMicroService_of_error hbuild]
      refine iff_of_false ?_ ?_
      · rintro ⟨_, _, _, _, ⟨⟩⟩
      · rintro ⟨disposal, ⟨⟩⟩
  | ok disposal =>
      rw [callMicroService_eq hbuild]
      refine iff_of_true ?_ ⟨disposal, rfl⟩
      cases disposeServiceInvoke environment.callDisposeService with
      | error cause => exact ⟨_, _, _, _, rfl⟩
      | ok answer => exact ⟨_, _, _, _, rfl⟩

/-- A form that was accepted can be sent exactly if nothing in it is left that cannot be
converted; then the service is called, and no exception of it escapes. -/
theorem reachesService_iff_sendable (environment : Environment joda)
    (hvalid : ((form chronology constructed bound).bindForm data).valid = some disposeFormModel)
    {traderDetails : TraderDetailsModel} (haddress : traderDetails.traderAddress.address ≠ [])
    (vehicleLookup : VehicleLookupFormModel) (trackingId : String) :
    (∃ disposal, buildDisposeMicroServiceRequest environment
        (disposeModelOf vehicleLookup disposeFormModel) traderDetails = .ok disposal) ∧
      ReachesService (callMicroService environment
        (disposeModelOf vehicleLookup disposeFormModel) disposeFormModel traderDetails
        trackingId) ↔
    Sendable chronology disposeFormModel traderDetails.traderAddress := by
  rw [reachesService_iff, and_self, buildDisposeMicroServiceRequest_isOk_iff,
    DisposalAddressDto.exists_fromViewModel_eq_ok_iff haddress, toBoolean_isOk_iff,
    toBoolean_isOk_iff]
  simp only [disposeModelOf, isSome_toDateTime_iff hvalid]
  constructor
  · rintro ⟨⟨hhour, htime⟩, htraderAddress, hlossOfRegistrationConsent, hconsent⟩
    exact ⟨hhour, htime, hconsent, hlossOfRegistrationConsent, htraderAddress⟩
  · rintro ⟨hhour, htime, hconsent, hlossOfRegistrationConsent, htraderAddress⟩
    exact ⟨⟨hhour, htime⟩, htraderAddress, hlossOfRegistrationConsent, hconsent⟩

end Sending

/-- An address that was entered by hand has lines. -/
theorem fromModel_address_ne_nil (address : AddressAndPostcodeModel) (postcode : String) :
    (AddressViewModel.fromModel address postcode).address ≠ [] := by
  simp [AddressViewModel.fromModel, AddressAndPostcodeModel.toViewFormat]

section Dealer

open Dealer

def dealer : TraderDetailsModel := ⟨"Dealer", ⟨none, ["1 High Street", "Town", "AA11AA"]⟩⟩

/-- A submission of yesterday at the given hour, with both consents. -/
def yesterday (hour : String) : FormData :=
  ⟨[⟨"dateOfDisposal.day", "31"⟩, ⟨"dateOfDisposal.month", "8"⟩, ⟨"dateOfDisposal.year", "2014"⟩,
      ⟨"dateOfDisposal.hour", hour⟩, ⟨"consent", "true"⟩, ⟨"lossOfRegistrationConsent", "true"⟩],
    by simp [List.NodupKeys, List.keys]⟩

def yesterdayAt (hour : ℤ) : DisposeFormModel where
  mileage := none
  dateOfDisposal := { day := 31, month := 8, year := 2014, hour := some hour }
  consent := "true"
  lossOfRegistrationConsent := "true"

theorem valid_yesterday_noon :
    ((form Utc.chronology noon noon).bindForm (yesterday "12")).valid = some (yesterdayAt 12) :=
  rfl

theorem reachesService_iff_sendable_noon :
    (∃ disposal, buildDisposeMicroServiceRequest (services found)
        (disposeModelOf ⟨"1", "A1"⟩ (yesterdayAt 12)) dealer = .ok disposal) ∧
      ReachesService (callMicroService (services found)
        (disposeModelOf ⟨"1", "A1"⟩ (yesterdayAt 12)) (yesterdayAt 12) dealer "1") ↔
    Sendable Utc.chronology (yesterdayAt 12) dealer.traderAddress :=
  reachesService_iff_sendable (services found) valid_yesterday_noon (List.cons_ne_nil _ _)
    ⟨"1", "A1"⟩ "1"

/-- The hour 24 is accepted, and raises before the service is called. -/
theorem not_reachesService_midnight :
    ((form Utc.chronology noon noon).bindForm (yesterday "24")).valid = some (yesterdayAt 24) ∧
      callMicroService (services found) (disposeModelOf ⟨"1", "A1"⟩ (yesterdayAt 24))
          (yesterdayAt 24) dealer "1" =
        ⟨[], .error ⟨.noSuchElementException, some "None.get"⟩⟩ ∧
      ¬ ∃ disposal, buildDisposeMicroServiceRequest (services found)
        (disposeModelOf ⟨"1", "A1"⟩ (yesterdayAt 24)) dealer = .ok disposal := by
  have hbuild : buildDisposeMicroServiceRequest (services found)
      (disposeModelOf ⟨"1", "A1"⟩ (yesterdayAt 24)) dealer =
        .error ⟨.noSuchElementException, some "None.get"⟩ := rfl
  refine ⟨rfl, callMicroService_of_error hbuild, ?_⟩
  rintro ⟨disposal, h⟩
  rw [hbuild] at h
  cases h

end Dealer

end Dispose

end VehiclesOnline
