import VehiclesOnline.Library.Effects
import VehiclesOnline.Wizard.Addresses
import VehiclesOnline.Wizard.Calendar

/-! The requests to the micro-services, and what the services of the application make of
their responses. -/

namespace VehiclesOnline

/-- A response of a micro-service. The body may not be JSON, or not be of the expected
form. -/
structure WebResponse (α : Type) where
  status : ℤ
  json : Except Throwable (Option α)

/-- `resp.json.as`. -/
def WebResponse.as {α : Type} (response : WebResponse α) : Except Throwable α := do
  match ← response.json with
  | some a => return a
  | none => throw ⟨.runtimeException, some "JsResultException"⟩

/-- The configuration that the wizard reads. -/
structure Config where
  startUrl : String := "/disposal-of-vehicle/before-you-start"
  isBruteForcePreventionEnabled : Bool := true
  bruteForcePreventionMaxAttemptsHeader : ℤ := 3
  prototypeSurveyUrl : String := ""
  prototypeSurveyPrepositionInterval : ℤ := 7 * 24 * 60 * 60 * 1000

/-! ### Brute force prevention -/

structure BruteForcePreventionResponse where
  attempts : ℤ

variable {joda : Joda}

/-- The attempts are counted in an `Int`. -/
def BruteForcePreventionViewModel.fromResponse (permitted : Bool)
    (response : BruteForcePreventionResponse) (dateService : DateService joda) (maxAttempts : ℤ) :
    BruteForcePreventionViewModel where
  permitted := permitted
  attempts := (response.attempts + 1).bmod (2 ^ 32)
  maxAttempts := maxAttempts
  dateTimeISOChronology := dateService.dateTimeISOChronology

/-- `BruteForcePreventionServiceImpl.isVrmLookupPermitted`, given what the web service
answers. -/
def isVrmLookupPermitted (config : Config) (dateService : DateService joda)
    (callBruteForce : Except Throwable (WebResponse BruteForcePreventionResponse)) :
    Except Throwable BruteForcePreventionViewModel :=
  let maxAttempts := config.bruteForcePreventionMaxAttemptsHeader
  let fromResponse (permitted : Bool) (response : BruteForcePreventionResponse) :=
    BruteForcePreventionViewModel.fromResponse permitted response dateService maxAttempts
  if config.isBruteForcePreventionEnabled then do
    let resp ← callBruteForce
    if resp.status = 200 then
      match ← resp.json with
      | some model => return fromResponse true model
      | none => throw ⟨.runtimeException, some "TODO"⟩
    else if resp.status = 403 then
      return fromResponse false { attempts := 0 }
    else
      throw ⟨.runtimeException, some "unknownPermission"⟩
  else
    return fromResponse true { attempts := 0 }

/-! ### Vehicle lookup -/

structure VehicleDetailsRequest where
  referenceNumber : String
  registrationNumber : String
  userName : String
  deriving DecidableEq, Repr

structure VehicleDetailsDto where
  registrationNumber : String
  vehicleMake : String
  vehicleModel : String
  deriving DecidableEq, Repr

structure VehicleDetailsResponse where
  responseCode : Option String
  vehicleDetailsDto : Option VehicleDetailsDto
  deriving DecidableEq, Repr

def VehicleDetailsModel.fromDto (model : VehicleDetailsDto) : VehicleDetailsModel where
  registrationNumber := model.registrationNumber
  vehicleMake := model.vehicleMake
  vehicleModel := model.vehicleModel

/-- The status and the body that a service of the application answers with. -/
abbrev Answer (α : Type) := ℤ × Option α

/-- `VehicleLookupServiceImpl.invoke`, given what the web service answers. -/
def vehicleLookupServiceInvoke
    (callVehicleLookupService : Except Throwable (WebResponse VehicleDetailsResponse)) :
    Except Throwable (Answer VehicleDetailsResponse) := do
  let resp ← callVehicleLookupService
  if resp.status = 200 then return (resp.status, some (← resp.as))
  else return (resp.status, none)

/-! ### Dispose -/

structure DisposeRequest where
  referenceNumber : String
  registrationNumber : String
  traderName : String
  traderAddress : DisposalAddressDto
  dateOfDisposal : String
  transactionTimestamp : String
  prConsent : Bool
  keeperConsent : Bool
  mileage : Option ℤ := none
  deriving DecidableEq, Repr

structure DisposeResponse where
  transactionId : String
  registrationNumber : String
  auditId : String
  responseCode : Option String := none
  deriving DecidableEq, Repr

/-- `DisposeServiceImpl.invoke`, given what the web service answers. -/
def disposeServiceInvoke
    (callDisposeService : Except Throwable (WebResponse DisposeResponse)) :
    Except Throwable (Answer DisposeResponse) := do
  let resp ← callDisposeService
  if resp.status = 200 then return (resp.status, ← resp.json)
  else return (resp.status, none)

/-! ### One request -/

/-- What the services answer while one request is handled, and the readings of the clock
before and after. -/
structure Environment (joda : Joda) where
  callBruteForce : Except Throwable (WebResponse BruteForcePreventionResponse)
  callVehicleLookupService : Except Throwable (WebResponse VehicleDetailsResponse)
  callDisposeService : Except Throwable (WebResponse DisposeResponse)
  fetchAddressesForPostcode : Except Throwable (List (String × String))
  fetchAddressForUprn : Except Throwable (Option AddressViewModel)
  dateService : DateService joda
  dateServiceAfterCall : DateService joda

/-- A call of a service that an action makes, and its answer. -/
inductive ServiceCall
  | addressesForPostcode (postcode trackingId : String)
  | addressForUprn (uprn trackingId : String)
  | bruteForce (vrm : String)
  | vehicleLookup (request : VehicleDetailsRequest) (trackingId : String)
      (answer : Except Throwable (Answer VehicleDetailsResponse))
  | dispose (request : DisposeRequest) (trackingId : String)
      (answer : Except Throwable (Answer DisposeResponse))

/-- The calls of services that an action makes, in order, and how it ends. -/
abbrev Outcome := Effects.Outcome ServiceCall Throwable

end VehiclesOnline
