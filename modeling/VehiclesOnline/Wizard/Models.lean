import Mathlib.Data.List.Nodup
import VehiclesOnline.Library.Json
import VehiclesOnline.Session.ClientSideSession

/-! The models that the wizard keeps in cookies, the JSON that they are written as, and the
cache keys under which they are kept. -/

namespace VehiclesOnline

/-- The text of a value is parsed by `Json.parse` and read by the `Reads` of its model. -/
def JsonFormat.ofFormat {Model : Type} (format : Json.Format Model) : JsonFormat Model where
  toJson model := String.ofList (format.writes model).print
  fromJson text :=
    match Json.parse text with
    | none => .error ⟨.jsonParseException, none⟩
    | some json =>
        match format.reads json with
        | some model => .ok model
        | none => .error ⟨.jsonValidationException, none⟩
  fromJson_toJson model := by simp only [Json.parse_print, format.reads_writes]

/-- A string is kept as it is. -/
def JsonFormat.text : JsonFormat String where
  toJson value := value
  fromJson value := .ok value
  fromJson_toJson _ := rfl

/-! ### The models -/

structure DayMonthYear where
  day : ℤ
  month : ℤ
  year : ℤ
  hour : Option ℤ := none
  minutes : Option ℤ := none
  deriving DecidableEq, Repr

structure AddressLinesModel where
  buildingNameOrNumber : String
  line2 : Option String := none
  line3 : Option String := none
  postTown : String
  deriving DecidableEq, Repr

structure AddressAndPostcodeModel where
  uprn : Option ℤ := none
  addressLinesModel : AddressLinesModel
  deriving DecidableEq, Repr

structure AddressViewModel where
  uprn : Option ℤ := none
  address : List String
  deriving DecidableEq, Repr

structure SetupTradeDetailsModel where
  traderBusinessName : String
  traderPostcode : String
  deriving DecidableEq, Repr

structure BusinessChooseYourAddressModel where
  uprnSelected : String
  deriving DecidableEq, Repr

structure EnterAddressManuallyModel where
  addressAndPostcodeModel : AddressAndPostcodeModel
  deriving DecidableEq, Repr

structure TraderDetailsModel where
  traderName : String
  traderAddress : AddressViewModel
  deriving DecidableEq, Repr

structure VehicleLookupFormModel where
  referenceNumber : String
  registrationNumber : String
  deriving DecidableEq, Repr

structure VehicleDetailsModel where
  registrationNumber : String
  vehicleMake : String
  vehicleModel : String
  deriving DecidableEq, Repr

structure BruteForcePreventionViewModel where
  permitted : Bool
  attempts : ℤ
  maxAttempts : ℤ
  dateTimeISOChronology : String
  deriving DecidableEq, Repr

structure DisposeFormModel where
  mileage : Option ℤ
  dateOfDisposal : DayMonthYear
  consent : String
  lossOfRegistrationConsent : String
  deriving DecidableEq, Repr

structure DisposeModel where
  referenceNumber : String
  registrationNumber : String
  dateOfDisposal : DayMonthYear
  consent : String
  lossOfRegistrationConsent : String
  mileage : Option ℤ
  deriving DecidableEq, Repr

/-! ### Their JSON -/

section Formats

open Json (Format field optionalField readField readOptionalField)

def DayMonthYear.format : Format DayMonthYear where
  writes m := .obj (field .int "day" m.day ++ field .int "month" m.month ++
    field .int "year" m.year ++ optionalField .int "hour" m.hour ++
    optionalField .int "minutes" m.minutes)
  reads json := do
    return { day := ← readField .int "day" json
             month := ← readField .int "month" json
             year := ← readField .int "year" json
             hour := ← readOptionalField .int "hour" json
             minutes := ← readOptionalField .int "minutes" json }
  reads_writes m := by
    rcases m with ⟨day, month, year, _ | hour, _ | minutes⟩ <;> rfl

def AddressLinesModel.format : Format AddressLinesModel where
  writes m := .obj (field .string "buildingNameOrNumber" m.buildingNameOrNumber ++
    optionalField .string "line2" m.line2 ++ optionalField .string "line3" m.line3 ++
    field .string "postTown" m.postTown)
  reads json := do
    return { buildingNameOrNumber := ← readField .string "buildingNameOrNumber" json
             line2 := ← readOptionalField .string "line2" json
             line3 := ← readOptionalField .string "line3" json
             postTown := ← readField .string "postTown" json }
  reads_writes m := by
    rcases m with ⟨building, _ | line2, _ | line3, postTown⟩ <;> rfl

def AddressAndPostcodeModel.format : Format AddressAndPostcodeModel where
  writes m := .obj (optionalField .int "uprn" m.uprn ++
    field AddressLinesModel.format "addressLinesModel" m.addressLinesModel)
  reads json := do
    return { uprn := ← readOptionalField .int "uprn" json
             addressLinesModel := ← readField AddressLinesModel.format "addressLinesModel" json }
  reads_writes m := by
    obtain ⟨uprn, lines⟩ := m
    cases uprn <;> simp [List.lookup_cons, Format.int]

def AddressViewModel.format : Format AddressViewModel where
  writes m := .obj (optionalField .int "uprn" m.uprn ++
    field (.seq .string) "address" m.address)
  reads json := do
    return { uprn := ← readOptionalField .int "uprn" json
             address := ← readField (.seq .string) "address" json }
  reads_writes m := by
    obtain ⟨uprn, address⟩ := m
    cases uprn <;> simp [List.lookup_cons, Format.int, Format.string]

def SetupTradeDetailsModel.format : Format SetupTradeDetailsModel where
  writes m := .obj (field .string "traderBusinessName" m.traderBusinessName ++
    field .string "traderPostcode" m.traderPostcode)
  reads json := do
    return { traderBusinessName := ← readField .string "traderBusinessName" json
             traderPostcode := ← readField .string "traderPostcode" json }
  reads_writes _ := rfl

def BusinessChooseYourAddressModel.format : Format BusinessChooseYourAddressModel where
  writes m := .obj (field .string "uprnSelected" m.uprnSelected)
  reads json := do
    return { uprnSelected := ← readField .string "uprnSelected" json }
  reads_writes _ := rfl

def EnterAddressManuallyModel.format : Format EnterAddressManuallyModel where
  writes m := .obj
    (field AddressAndPostcodeModel.format "addressAndPostcodeModel" m.addressAndPostcodeModel)
  reads json := do
    let addressAndPostcodeModel ←
      readField AddressAndPostcodeModel.format "addressAndPostcodeModel" json
    return { addressAndPostcodeModel }
  reads_writes m := by
    simp

def TraderDetailsModel.format : Format TraderDetailsModel where
  writes m := .obj (field .string "traderName" m.traderName ++
    field AddressViewModel.format "traderAddress" m.traderAddress)
  reads json := do
    return { traderName := ← readField .string "traderName" json
             traderAddress := ← readField AddressViewModel.format "traderAddress" json }
  reads_writes m := by
    simp [List.lookup_cons, Format.string]

def VehicleLookupFormModel.format : Format VehicleLookupFormModel where
  writes m := .obj (field .string "referenceNumber" m.referenceNumber ++
    field .string "registrationNumber" m.registrationNumber)
  reads json := do
    return { referenceNumber := ← readField .string "referenceNumber" json
             registrationNumber := ← readField .string "registrationNumber" json }
  reads_writes _ := rfl

def VehicleDetailsModel.format : Format VehicleDetailsModel where
  writes m := .obj (field .string "registrationNumber" m.registrationNumber ++
    field .string "vehicleMake" m.vehicleMake ++ field .string "vehicleModel" m.vehicleModel)
  reads json := do
    return { registrationNumber := ← readField .string "registrationNumber" json
             vehicleMake := ← readField .string "vehicleMake" json
             vehicleModel := ← readField .string "vehicleModel" json }
  reads_writes _ := rfl

def BruteForcePreventionViewModel.format : Format BruteForcePreventionViewModel where
  writes m := .obj (field .boolean "permitted" m.permitted ++ field .int "attempts" m.attempts ++
    field .int "maxAttempts" m.maxAttempts ++
    field .string "dateTimeISOChronology" m.dateTimeISOChronology)
  reads json := do
    return { permitted := ← readField .boolean "permitted" json
             attempts := ← readField .int "attempts" json
             maxAttempts := ← readField .int "maxAttempts" json
             dateTimeISOChronology := ← readField .string "dateTimeISOChronology" json }
  reads_writes _ := rfl

def DisposeFormModel.format : Format DisposeFormModel where
  writes m := .obj (optionalField .int "mileage" m.mileage ++
    field DayMonthYear.format "dateOfDisposal" m.dateOfDisposal ++
    field .string "consent" m.consent ++
    field .string "lossOfRegistrationConsent" m.lossOfRegistrationConsent)
  reads json := do
    return { mileage := ← readOptionalField .int "mileage" json
             dateOfDisposal := ← readField DayMonthYear.format "dateOfDisposal" json
             consent := ← readField .string "consent" json
             lossOfRegistrationConsent := ← readField .string "lossOfRegistrationConsent" json }
  reads_writes m := by
    obtain ⟨mileage, date, consent, lossOfRegistrationConsent⟩ := m
    cases mileage <;> simp [List.lookup_cons, Format.int, Format.string]

def DisposeModel.format : Format DisposeModel where
  writes m := .obj (field .string "referenceNumber" m.referenceNumber ++
    field .string "registrationNumber" m.registrationNumber ++
    field DayMonthYear.format "dateOfDisposal" m.dateOfDisposal ++
    field .string "consent" m.consent ++
    field .string "lossOfRegistrationConsent" m.lossOfRegistrationConsent ++
    optionalField .int "mileage" m.mileage)
  reads json := do
    return { referenceNumber := ← readField .string "referenceNumber" json
             registrationNumber := ← readField .string "registrationNumber" json
             dateOfDisposal := ← readField DayMonthYear.format "dateOfDisposal" json
             consent := ← readField .string "consent" json
             lossOfRegistrationConsent := ← readField .string "lossOfRegistrationConsent" json
             mileage := ← readOptionalField .int "mileage" json }
  reads_writes m := by
    obtain ⟨reference, registration, date, consent, lossOfRegistrationConsent, mileage⟩ := m
    cases mileage <;> simp [List.lookup_cons, Format.int, Format.string]

end Formats

/-! ### Cache keys -/

inductive CacheKey
  | setupTradeDetails
  | traderDetails
  | businessChooseYourAddress
  | enterAddressManually
  | bruteForcePreventionViewModel
  | vehicleLookupDetails
  | vehicleLookupResponseCode
  | vehicleLookupFormModel
  | disposeFormModel
  | disposeFormTransactionId
  | disposeFormTimestampId
  | disposeFormRegistrationNumber
  | disposeModel
  | preventGoingToDisposePage
  | disposeOccurred
  | surveyRequestTriggerDate
  | help
  deriving DecidableEq, Repr

namespace CacheKey

def value : CacheKey → String
  | setupTradeDetails => "setupTraderDetails"
  | traderDetails => "traderDetails"
  | businessChooseYourAddress => "businessChooseYourAddress"
  | enterAddressManually => "enterAddressManually"
  | bruteForcePreventionViewModel => "bruteForcePreventionViewModel"
  | vehicleLookupDetails => "vehicleLookupDetails"
  | vehicleLookupResponseCode => "vehicleLookupResponseCode"
  | vehicleLookupFormModel => "vehicleLookupFormModel"
  | disposeFormModel => "disposeForm"
  | disposeFormTransactionId => "disposeFormTransactionId"
  | disposeFormTimestampId => "disposeFormTimestampId"
  | disposeFormRegistrationNumber => "disposeFormRegistrationNumbessr"
  | disposeModel => "formModel"
  | preventGoingToDisposePage => "preventGoingToDisposePage"
  | disposeOccurred => "disposeOccurredCacheKey"
  | surveyRequestTriggerDate => "surveyRequestTriggerDate"
  | help => "help"

/-- What is kept under a key: a model, or a string. -/
abbrev Model : CacheKey → Type
  | setupTradeDetails => SetupTradeDetailsModel
  | traderDetails => TraderDetailsModel
  | businessChooseYourAddress => BusinessChooseYourAddressModel
  | enterAddressManually => EnterAddressManuallyModel
  | bruteForcePreventionViewModel => BruteForcePreventionViewModel
  | vehicleLookupDetails => VehicleDetailsModel
  | vehicleLookupResponseCode => String
  | vehicleLookupFormModel => VehicleLookupFormModel
  | disposeFormModel => DisposeFormModel
  | disposeFormTransactionId => String
  | disposeFormTimestampId => String
  | disposeFormRegistrationNumber => String
  | disposeModel => DisposeModel
  | preventGoingToDisposePage => String
  | disposeOccurred => String
  | surveyRequestTriggerDate => String
  | help => String

def format : (key : CacheKey) → JsonFormat key.Model
  | setupTradeDetails => .ofFormat SetupTradeDetailsModel.format
  | traderDetails => .ofFormat TraderDetailsModel.format
  | businessChooseYourAddress => .ofFormat BusinessChooseYourAddressModel.format
  | enterAddressManually => .ofFormat EnterAddressManuallyModel.format
  | bruteForcePreventionViewModel => .ofFormat BruteForcePreventionViewModel.format
  | vehicleLookupDetails => .ofFormat VehicleDetailsModel.format
  | vehicleLookupResponseCode => .text
  | vehicleLookupFormModel => .ofFormat VehicleLookupFormModel.format
  | disposeFormModel => .ofFormat DisposeFormModel.format
  | disposeFormTransactionId => .text
  | disposeFormTimestampId => .text
  | disposeFormRegistrationNumber => .text
  | disposeModel => .ofFormat DisposeModel.format
  | preventGoingToDisposePage => .text
  | disposeOccurred => .text
  | surveyRequestTriggerDate => .text
  | help => .text

def all : List CacheKey :=
  [setupTradeDetails, traderDetails, businessChooseYourAddress, enterAddressManually,
    bruteForcePreventionViewModel, vehicleLookupDetails, vehicleLookupResponseCode,
    vehicleLookupFormModel, disposeFormModel, disposeFormTransactionId, disposeFormTimestampId,
    disposeFormRegistrationNumber, disposeModel, preventGoingToDisposePage, disposeOccurred,
    surveyRequestTriggerDate, help]

theorem mem_all (key : CacheKey) : key ∈ all := by cases key <;> decide

theorem value_injective : Function.Injective value := by
  have hnodup : (all.map value).Nodup := by decide
  intro key key' h
  exact List.inj_on_of_nodup_map hnodup (mem_all key) (mem_all key') h

/-- No key is as long as a digest. -/
theorem length_value_ne (key : CacheKey) : key.value.length ≠ 40 := by
  cases key <;> decide

end CacheKey

/-! ### Related cache keys -/

namespace RelatedCacheKeys

open CacheKey

def DisposeOnlySet : List CacheKey :=
  [disposeFormModel, disposeFormTransactionId, disposeFormTimestampId,
    disposeFormRegistrationNumber, disposeModel]

/-- Related to a single vehicle disposal. -/
def DisposeSet : List CacheKey :=
  [bruteForcePreventionViewModel, vehicleLookupDetails, vehicleLookupResponseCode,
    vehicleLookupFormModel, disposeFormModel, disposeFormTransactionId, disposeFormTimestampId,
    disposeFormRegistrationNumber, disposeModel]

/-- Retained after a successful disposal. -/
def TradeDetailsSet : List CacheKey :=
  [setupTradeDetails, traderDetails, businessChooseYourAddress, enterAddressManually]

/-- Removed at the start of the process. -/
def FullSet : List CacheKey :=
  TradeDetailsSet ++ DisposeSet ++ [preventGoingToDisposePage] ++ [disposeOccurred]

end RelatedCacheKeys

/-- What the wizard keeps, by cache key. -/
abbrev ApplicationData := KeyValue.Store CacheKey CacheKey.Model

end VehiclesOnline
