import VehiclesOnline.Library.Ascii
import VehiclesOnline.Library.Pattern
import VehiclesOnline.Wizard.Dates
import VehiclesOnline.Wizard.Mappings

/-! The forms in which a vehicle is looked up and disposed of: their mappings, and what they
accept. -/

namespace VehiclesOnline

open Mapping (optional bind_eq_ok_iff)

variable {joda : Joda}

/-! ### The lookup form -/

namespace NumberOnly

/-- A digit, and digits behind it. -/
def rules : Constraint String :=
  .check
    (fun input =>
      match input.toList with
      | [] => false
      | c :: cs => c.isDigit && cs.all Char.isDigit)
    "error.restricted.validNumberOnly"

end NumberOnly

namespace DocumentReferenceNumber

def MinLength : ℕ := 11

def MaxLength : ℕ := 11

def referenceNumber : Mapping String :=
  (nonEmptyTextBetween MinLength MaxLength).verifying [NumberOnly.rules]

end DocumentReferenceNumber

namespace RegistrationNumber

def letters (min max : ℕ) : Pattern.Piece := ⟨Char.isAlpha, min, max⟩

def digits (min max : ℕ) : Pattern.Piece := ⟨Char.isDigit, min, max⟩

def whitelist : List (List Pattern.Piece) :=
  [[letters 3 3, digits 1 4], [letters 1 1, digits 1 3, letters 3 3],
    [letters 3 3, digits 1 3, letters 1 1], [letters 2 2, digits 2 2, letters 3 3],
    [letters 1 3, digits 1 3], [digits 1 4, letters 1 3], [letters 1 2, digits 1 4]]

def Matches (input : String) : Prop :=
  ∃ shape ∈ whitelist, Pattern.matchesAll shape input.toList = true

instance (input : String) : Decidable (Matches input) :=
  inferInstanceAs (Decidable (∃ shape ∈ whitelist, _))

def validRegistrationNumber : Constraint String :=
  .check (fun input => decide (Matches (Text.without ' ' input))) "error.restricted.validVrnOnly"

end RegistrationNumber

namespace VehicleRegistrationNumber

def MinLength : ℕ := 2

def MaxLength : ℕ := 8

def registrationNumber : Mapping String :=
  (nonEmptyTextBetween MinLength MaxLength).verifying [RegistrationNumber.validRegistrationNumber]

end VehicleRegistrationNumber

def VehicleLookup.form : Mapping VehicleLookupFormModel where
  bindValue key data :=
    ((Bound.and (.ok VehicleLookupFormModel.mk)
      (DocumentReferenceNumber.referenceNumber.field DocumentReferenceNumberId key data)).and
        (VehicleRegistrationNumber.registrationNumber.field VehicleRegistrationNumberId key data))

/-! ### The dispose form -/

namespace Constraints

def required : Constraint ℤ := .check (fun i => decide (i > 0)) "error.dropDownInvalid"

variable (joda) in
/-- The time of the date is ignored. -/
def validDate (minYear maxYear : ℤ) : Constraint DayMonthYear :=
  .check
    (fun dmy => (joda.dateTime dmy.year dmy.month dmy.day 0 0).isSome &&
      decide (dmy.year > minYear ∧ dmy.year < maxYear))
    "error.invalid"

def after (earliest : DayMonthYear) : Constraint DayMonthYear :=
  .check (fun dmy => (dmy.compare earliest).isGE) "error.withinTwoYears"

def notInFuture (dateService : DateService joda) : Constraint DayMonthYear :=
  .check (fun dmy => (dmy.compare dateService.today).isLE) "error.notInFuture"

end Constraints

namespace DayMonthYear

def MinYear : ℤ := 999

def MaxYear : ℤ := 9999

def MaxDaysInMonth : ℤ := 31

def MaxMonthsInYear : ℤ := 12

def MaxHoursInDay : ℤ := 24

def MaxMinutesInHour : ℤ := 59

/-- The mapping of a number that is chosen from a list. -/
def chosen (constraints : List (Constraint ℤ)) : Mapping ℤ :=
  (number.verifying constraints).verifying [Constraints.required]

/-- The mapping of a time of the day, in hours or minutes. -/
def timeUpTo (max : ℤ) : Mapping (Option ℤ) :=
  optional (number.verifying [Constraints.min 0, Constraints.max max])

def dayMonthYear : Mapping DayMonthYear where
  bindValue key data :=
    (((((Bound.and (.ok DayMonthYear.mk)
      ((chosen [Constraints.max MaxDaysInMonth]).field "day" key data)).and
        ((chosen [Constraints.max MaxMonthsInYear]).field "month" key data)).and
          ((chosen []).field "year" key data)).and
            ((timeUpTo MaxHoursInDay).field "hour" key data)).and
              ((timeUpTo MaxMinutesInHour).field "minutes" key data))

end DayMonthYear

def Mileage.Max : ℤ := 999999

def Mileage.mileage (max : ℤ) : Mapping (Option ℤ) :=
  optional (number.verifying [Constraints.max max])

def Consent.consent : Mapping String := nonEmptyText

namespace Dispose

def MileageId : String := "mileage"

def DateOfDisposalId : String := "dateOfDisposal"

def DateOfDisposalYearsIntoThePast : ℤ := 2

variable (chronology : Chronology joda) (constructed bound : DateService joda)

/-- The earliest date is read off the clock when the controller is constructed, today when the
form is bound. -/
def dateOfDisposal : Mapping DayMonthYear :=
  DayMonthYear.dayMonthYear.verifying
    [Constraints.validDate joda DayMonthYear.MinYear DayMonthYear.MaxYear,
      Constraints.after (constructed.today.minusYears chronology DateOfDisposalYearsIntoThePast),
      Constraints.notInFuture bound]

def form : Mapping DisposeFormModel where
  bindValue key data :=
    ((((Bound.and (.ok DisposeFormModel.mk)
      ((Mileage.mileage Mileage.Max).field MileageId key data)).and
        ((dateOfDisposal chronology constructed bound).field DateOfDisposalId key data)).and
          (Consent.consent.field ConsentId key data)).and
            (Consent.consent.field LossOfRegistrationConsentId key data))

end Dispose

/-! ### What the lookup form accepts -/

namespace NumberOnly

theorem all_isDigit_of_rules {input : String} (h : rules input = none) :
    ∀ c ∈ input.toList, c.isDigit = true := by
  rw [rules, Constraint.check_eq_none_iff] at h
  cases hinput : input.toList with
  | nil => rw [hinput] at h; cases h
  | cons c cs =>
      rw [hinput, Bool.and_eq_true, List.all_eq_true] at h
      rintro d (_ | ⟨_, hd⟩)
      · exact h.1
      · exact h.2 d hd

end NumberOnly

namespace RegistrationNumber

theorem isUpper_toUpper {c : Char} (h : c.isAlpha = true) : c.toUpper.isUpper = true := by
  rw [Ascii.isAlpha_iff] at h
  rw [Ascii.isUpper_iff, Ascii.toNat_toUpper]
  split <;> omega

theorem toUpper_of_isDigit {c : Char} (h : c.isDigit = true) : c.toUpper = c := by
  rw [Ascii.isDigit_iff] at h
  exact Ascii.toUpper_eq_self (by omega)

theorem accepts_of_mem {shape : List Pattern.Piece} (hshape : shape ∈ whitelist)
    {piece : Pattern.Piece} (hpiece : piece ∈ shape) :
    piece.accepts = Char.isAlpha ∨ piece.accepts = Char.isDigit := by
  have hall : ∀ shape ∈ whitelist, ∀ piece ∈ shape,
      piece.accepts = Char.isAlpha ∨ piece.accepts = Char.isDigit := by
    simp [whitelist, letters, digits]
  exact hall shape hshape piece hpiece

variable {input : String}

theorem isAlpha_or_isDigit_of_matches (h : Matches input) :
    ∀ c ∈ input.toList, c.isAlpha = true ∨ c.isDigit = true := by
  obtain ⟨shape, hshape, hmatches⟩ := h
  intro c hc
  obtain ⟨piece, hpiece, haccepts⟩ := Pattern.exists_accepts_of_matchesAll hmatches c hc
  rcases accepts_of_mem hshape hpiece with h | h
  · exact .inl (h ▸ haccepts)
  · exact .inr (h ▸ haccepts)

theorem isUpper_or_isDigit_of_matches (h : Matches input) :
    ∀ c ∈ input.toUpper.toList, c.isUpper = true ∨ c.isDigit = true := by
  intro c hc
  rw [String.toUpper, String.toList_map] at hc
  obtain ⟨d, hd, rfl⟩ := List.mem_map.mp hc
  rcases isAlpha_or_isDigit_of_matches h d hd with halpha | hdigit
  · exact .inl (isUpper_toUpper halpha)
  · exact .inr (by rwa [toUpper_of_isDigit hdigit])

/-- The shapes do not tell upper from lower case. -/
theorem Matches.toUpper (h : Matches input) : Matches input.toUpper := by
  obtain ⟨shape, hshape, hmatches⟩ := h
  refine ⟨shape, hshape, ?_⟩
  rw [String.toUpper, String.toList_map]
  refine Pattern.matchesAll_map Char.toUpper ?_ hmatches
  intro piece hpiece c hc
  rcases accepts_of_mem hshape hpiece with h | h
  · rw [h] at hc ⊢
    exact Bool.or_eq_true_iff.mpr (.inl (isUpper_toUpper hc))
  · rw [h] at hc ⊢
    rwa [toUpper_of_isDigit hc]

/-- On what matches, the conversion to upper case is that of ASCII. -/
theorem toUpperCase_of_matches (h : Matches input) : Unicode.toUpperCase input = input.toUpper := by
  refine Unicode.toUpperCase_of_ascii fun c hc => ?_
  have halphanum := isAlpha_or_isDigit_of_matches h c hc
  rw [Ascii.isAlpha_iff, Ascii.isDigit_iff] at halphanum
  omega

/-- A text in upper case that matches has no spaces. -/
theorem without_toUpper (h : Matches input) : Text.without ' ' input.toUpper = input.toUpper := by
  rw [Text.without, List.filter_eq_self.mpr, String.ofList_toList]
  intro c hc
  have hne : c ≠ ' ' := by
    rintro rfl
    rcases isUpper_or_isDigit_of_matches h ' ' hc with h | h <;> cases h
  exact bne_iff_ne.mpr hne

end RegistrationNumber

namespace VehicleLookup

theorem valid_bindForm {data : FormData} {model : VehicleLookupFormModel}
    (h : (form.bindForm data).valid = some model) :
    DocumentReferenceNumber.referenceNumber.field DocumentReferenceNumberId "" data =
        .ok model.referenceNumber ∧
      VehicleRegistrationNumber.registrationNumber.field VehicleRegistrationNumberId "" data =
        .ok model.registrationNumber := by
  have hbind := (bind_eq_ok_iff.mp (Mapping.valid_bindForm.mp h)).1
  simp only [form, Bound.and_eq_ok_iff, Except.ok.injEq] at hbind
  obtain ⟨_, _, ⟨_, _, rfl, hreference, rfl⟩, hregistration, rfl⟩ := hbind
  exact ⟨hreference, hregistration⟩

theorem referenceNumber_of_bind {key : String} {data : FormData} {s : String}
    (h : DocumentReferenceNumber.referenceNumber.bind key data = .ok s) :
    s.toList.length = 11 ∧ ∀ c ∈ s.toList, c.isDigit = true := by
  obtain ⟨-, hmin, hmax, -, hrules⟩ := nonEmptyTextBetween_bind_eq_ok_iff.mp h
  have hdigits := NumberOnly.all_isDigit_of_rules (hrules _ (List.mem_singleton_self _))
  have hascii : ∀ c ∈ s.toList, c.toNat < 2 ^ 7 := fun c hc =>
    (Char.isDigit_iff_toNat.mp (hdigits c hc)).2.trans_lt (by decide)
  rw [utf16Length_of_ascii hascii] at hmin hmax
  exact ⟨le_antisymm hmax hmin, hdigits⟩

theorem registrationNumber_of_bind {key : String} {data : FormData} {s : String}
    (h : VehicleRegistrationNumber.registrationNumber.bind key data = .ok s) :
    RegistrationNumber.Matches (Text.without ' ' s) := by
  obtain ⟨-, -, -, -, hvalid⟩ := nonEmptyTextBetween_bind_eq_ok_iff.mp h
  have hcheck := hvalid _ (List.mem_singleton_self _)
  exact of_decide_eq_true (Constraint.check_eq_none_iff.mp hcheck)

end VehicleLookup

/-! ### What the dispose form accepts -/

namespace DayMonthYear

variable {key : String} {data : FormData}

theorem chosen_bind_eq_ok_iff {constraints : List (Constraint ℤ)} {n : ℤ} :
    (chosen constraints).bind key data = .ok n ↔
      number.bindValue key data = .ok n ∧
        (∀ constraint ∈ constraints, constraint n = none) ∧ 0 < n := by
  rw [bind_eq_ok_iff]
  simp [chosen, Mapping.verifying, number, or_imp, forall_and, Constraints.required,
    Constraint.check_eq_none_iff]

theorem timeUpTo_bind_eq_ok_iff {max : ℤ} {value : Option ℤ} :
    (timeUpTo max).bind key data = .ok value ↔
      (Mapping.Submitted key data ∧ ∃ n, value = some n ∧ number.bindValue key data = .ok n ∧
          0 ≤ n ∧ n ≤ max) ∨
        (¬ Mapping.Submitted key data ∧ value = none) := by
  rw [timeUpTo, Mapping.optional_bind_eq_ok_iff]
  simp [bind_eq_ok_iff, Mapping.verifying, number, Constraints.min, Constraints.max,
    Constraint.check_eq_none_iff]

theorem timeUpTo_bounds {max : ℤ} {value : Option ℤ} (hmax : 0 ≤ max)
    (h : (timeUpTo max).bind key data = .ok value) : 0 ≤ value.getD 0 ∧ value.getD 0 ≤ max := by
  rcases timeUpTo_bind_eq_ok_iff.mp h with ⟨-, n, rfl, -, hbounds⟩ | ⟨-, rfl⟩
  · exact hbounds
  · exact ⟨le_rfl, hmax⟩

/-- A date is bound if all of its fields are. -/
theorem dayMonthYear_bindValue_eq_ok_iff {date : DayMonthYear} :
    dayMonthYear.bindValue key data = .ok date ↔
      (chosen [Constraints.max MaxDaysInMonth]).field "day" key data = .ok date.day ∧
        (chosen [Constraints.max MaxMonthsInYear]).field "month" key data = .ok date.month ∧
        (chosen []).field "year" key data = .ok date.year ∧
        (timeUpTo MaxHoursInDay).field "hour" key data = .ok date.hour ∧
        (timeUpTo MaxMinutesInHour).field "minutes" key data = .ok date.minutes := by
  simp only [dayMonthYear, Bound.and_eq_ok_iff, Except.ok.injEq]
  constructor
  · rintro ⟨_, _, ⟨_, _, ⟨_, _, ⟨_, _, ⟨_, _, rfl, hday, rfl⟩, hmonth, rfl⟩, hyear, rfl⟩, hhour,
      rfl⟩, hminutes, rfl⟩
    exact ⟨hday, hmonth, hyear, hhour, hminutes⟩
  · rintro ⟨hday, hmonth, hyear, hhour, hminutes⟩
    exact ⟨_, _, ⟨_, _, ⟨_, _, ⟨_, _, ⟨_, _, rfl, hday, rfl⟩, hmonth, rfl⟩, hyear, rfl⟩, hhour,
      rfl⟩, hminutes, rfl⟩

end DayMonthYear

theorem Mileage.mileage_bind_le {max : ℤ} {key : String} {data : FormData} {n : ℤ}
    (h : (mileage max).bind key data = .ok (some n)) : n ≤ max := by
  rcases Mapping.optional_bind_eq_ok_iff.mp h with ⟨-, _, ⟨⟩, hbind⟩ | ⟨-, ⟨⟩⟩
  have hmax := (bind_eq_ok_iff.mp hbind).2 (Constraints.max max) (by simp [Mapping.verifying])
  exact Constraints.max_eq_none_iff.mp hmax

namespace Dispose

variable {chronology : Chronology joda} {constructed bound : DateService joda} {data : FormData}

/-- The three constraints on a date of disposal. -/
theorem dateOfDisposal_bind_eq_ok_iff {key : String} {date : DayMonthYear} :
    (dateOfDisposal chronology constructed bound).bind key data = .ok date ↔
      DayMonthYear.dayMonthYear.bindValue key data = .ok date ∧
        ((joda.dateTime date.year date.month date.day 0 0).isSome ∧ 999 < date.year ∧
          date.year < 9999) ∧
        (date.compare (constructed.today.minusYears chronology
          DateOfDisposalYearsIntoThePast)).isGE = true ∧
        (date.compare bound.today).isLE = true := by
  rw [bind_eq_ok_iff]
  simp [dateOfDisposal, Mapping.verifying, DayMonthYear.dayMonthYear, Constraints.validDate,
    Constraints.after, Constraints.notInFuture, Constraint.check_eq_none_iff,
    DayMonthYear.MinYear, DayMonthYear.MaxYear]

theorem valid_bindForm {model : DisposeFormModel}
    (h : ((form chronology constructed bound).bindForm data).valid = some model) :
    (Mileage.mileage Mileage.Max).field MileageId "" data = .ok model.mileage ∧
      (dateOfDisposal chronology constructed bound).field DateOfDisposalId "" data =
        .ok model.dateOfDisposal := by
  have hbind := (bind_eq_ok_iff.mp (Mapping.valid_bindForm.mp h)).1
  simp only [form, Bound.and_eq_ok_iff, Except.ok.injEq] at hbind
  obtain ⟨_, _, ⟨_, _, ⟨_, _, ⟨_, _, rfl, hmileage, rfl⟩, hdate, rfl⟩, -, rfl⟩, -, rfl⟩ := hbind
  exact ⟨hmileage, hdate⟩

end Dispose

end VehiclesOnline
