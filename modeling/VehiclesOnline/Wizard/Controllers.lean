import VehiclesOnline.Wizard.Responses

/-! The controllers of the wizard. An action reads the cookies of its request, calls services
and returns a result with edits of the cookies. -/

namespace VehiclesOnline

open Result (redirect)

variable {joda : Joda} (config : Config) (environment : Environment joda)
variable (cookies : RequestCookies)

/-- `Option.get`. -/
def getOrThrow {α : Type} : Option α → Except Throwable α
  | some a => .ok a
  | none => .error ⟨.noSuchElementException, some "None.get"⟩

namespace BeforeYouStart

def present : Result := (Result.ok .beforeYouStart).discardingCookies RelatedCacheKeys.FullSet

def submit : Result := redirect .setUpTradeDetails

def url : String := "/disposal-of-vehicle/before-you-start"

end BeforeYouStart

namespace SetUpTradeDetails

def present : Except Throwable Result := do
  return .ok (.setupTradeDetails (← cookies.fill .setupTradeDetails))

def submit (form : Form SetupTradeDetailsModel) : Result :=
  match form.valid with
  | none => .badRequest (.setupTradeDetails (formWithReplacedErrors form))
  | some validForm =>
      (redirect .businessChooseYourAddress).withCookie .setupTradeDetails validForm

end SetUpTradeDetails

namespace BusinessChooseYourAddress

def fetchAddresses (model : SetupTradeDetailsModel) (trackingId : String) :
    Outcome (List (String × String)) :=
  .call (.addressesForPostcode model.traderPostcode trackingId)
    environment.fetchAddressesForPostcode

def present : Outcome Result := do
  match ← cookies.getModel .setupTradeDetails with
  | some setupTradeDetailsModel => do
      let trackingId ← cookies.trackingId
      let addresses ← fetchAddresses environment setupTradeDetailsModel trackingId
      let form ← cookies.fill .businessChooseYourAddress
      return .ok (.businessChooseYourAddress form setupTradeDetailsModel.traderBusinessName
        setupTradeDetailsModel.traderPostcode addresses)
  | none => return redirect .setUpTradeDetails

def lookupUprn (model : BusinessChooseYourAddressModel) (traderName trackingId : String) :
    Outcome Result := do
  match ← Effects.Outcome.call (.addressForUprn model.uprnSelected trackingId)
      environment.fetchAddressForUprn with
  | some addressViewModel =>
      let traderDetailsModel : TraderDetailsModel :=
        { traderName := traderName, traderAddress := addressViewModel }
      return ((redirect .vehicleLookup).discardingCookie .enterAddressManually).withCookie
        .businessChooseYourAddress model |>.withCookie .traderDetails traderDetailsModel
  | none => return redirect .uprnNotFound

def submit (form : Form BusinessChooseYourAddressModel) : Outcome Result :=
  match form.valid with
  | none => do
      match ← cookies.getModel .setupTradeDetails with
      | some setupTradeDetails => do
          let trackingId ← cookies.trackingId
          let addresses ← fetchAddresses environment setupTradeDetails trackingId
          return .badRequest (.businessChooseYourAddress (formWithReplacedErrors form)
            setupTradeDetails.traderBusinessName setupTradeDetails.traderPostcode addresses)
      | none => return redirect .setUpTradeDetails
  | some validForm => do
      match ← cookies.getModel .setupTradeDetails with
      | some setupTradeDetailsModel => do
          let trackingId ← cookies.trackingId
          lookupUprn environment validForm setupTradeDetailsModel.traderBusinessName trackingId
      | none => return redirect .setUpTradeDetails

end BusinessChooseYourAddress

namespace EnterAddressManually

def present : Except Throwable Result := do
  match ← cookies.getModel .setupTradeDetails with
  | some setupTradeDetails =>
      return .ok (.enterAddressManually (← cookies.fill .enterAddressManually)
        setupTradeDetails.traderPostcode)
  | none => return redirect .setUpTradeDetails

def submit (form : Form EnterAddressManuallyModel) : Except Throwable Result :=
  match form.valid with
  | none => do
      match ← cookies.getModel .setupTradeDetails with
      | some setupTradeDetails =>
          return .badRequest (.enterAddressManually (formWithReplacedErrors form)
            setupTradeDetails.traderPostcode)
      | none => return redirect .setUpTradeDetails
  | some validForm => do
      match ← cookies.getModel .setupTradeDetails with
      | some setupTradeDetails =>
          let traderAddress := AddressViewModel.fromModel validForm.addressAndPostcodeModel
            setupTradeDetails.traderPostcode
          let traderDetailsModel : TraderDetailsModel :=
            { traderName := setupTradeDetails.traderBusinessName, traderAddress := traderAddress }
          return ((redirect .vehicleLookup).withCookie .enterAddressManually validForm).withCookie
            .traderDetails traderDetailsModel
      | none => return redirect .setUpTradeDetails

end EnterAddressManually

/-! ### The survey -/

/-- The exception of a text that a conversion does not accept. -/
def badInput (s : String) : Throwable :=
  ⟨.illegalArgumentException, some ("For input string: \"" ++ s ++ "\"")⟩

/-- `String.toLong`, for the ASCII digits that the application writes. -/
def toLong (s : String) : Except Throwable ℤ :=
  let digits (cs : List Char) : Option ℤ :=
    if cs ≠ [] ∧ cs.all Char.isDigit then some (Nat.ofDigitChars 10 cs 0) else none
  let value :=
    match s.toList with
    | '-' :: cs => (digits cs).map (-·)
    | '+' :: cs => digits cs
    | cs => digits cs
  match value with
  | some n =>
      if -2 ^ 63 ≤ n ∧ n < 2 ^ 63 then .ok n
      else .error (badInput s)
  | none => .error (badInput s)

/-- `SurveyUrl.apply`; the sum of the two `Long`s may wrap around. -/
def surveyUrl (dateService : DateService joda) : Except Throwable (Option String) := do
  let trimmed := Text.trim (· ≤ ' ') config.prototypeSurveyUrl
  let url := if trimmed ≠ "" then some trimmed else none
  match ← cookies.getString .surveyRequestTriggerDate with
  | some lastSurveyMillis => do
      let millis ← toLong lastSurveyMillis
      if (millis + config.prototypeSurveyPrepositionInterval).bmod (2 ^ 64) <
          dateService.nowMillis then
        return url
      else return none
  | none => return url

namespace VehicleLookup

def shouldDisplayExitButton : Except Throwable Bool := cookies.hasCookie .disposeOccurred

def present : Except Throwable Result := do
  match ← cookies.getModel .traderDetails with
  | some traderDetails =>
      return .ok (.vehicleLookup traderDetails (← cookies.fill .vehicleLookupFormModel)
        (← shouldDisplayExitButton cookies) (← surveyUrl config cookies environment.dateService))
  | none => return redirect .setUpTradeDetails

def invalidSubmit (form : Form VehicleLookupFormModel) : Except Throwable Result := do
  match ← cookies.getModel .traderDetails with
  | some traderDetails =>
      return .badRequest (.vehicleLookup traderDetails (formWithReplacedErrors form)
        (← shouldDisplayExitButton cookies) (← surveyUrl config cookies environment.dateService))
  | none => return redirect .setUpTradeDetails

def exit : Result :=
  ((redirect .beforeYouStart).discardingCookies RelatedCacheKeys.FullSet).withCookie
    .surveyRequestTriggerDate (toString environment.dateService.nowMillis)

def convertToUpperCaseAndRemoveSpaces (model : VehicleLookupFormModel) :
    VehicleLookupFormModel :=
  { model with
    registrationNumber := Unicode.toUpperCase (Text.without ' ' model.registrationNumber) }

def back : Except Throwable Result := do
  match ← cookies.getModel .traderDetails with
  | some dealerDetails =>
      if dealerDetails.traderAddress.uprn.isSome then return redirect .businessChooseYourAddress
      else return redirect .enterAddressManually
  | none => return redirect .setUpTradeDetails

def vehicleFoundResult (vehicleDetailsDto : VehicleDetailsDto) : Result :=
  ((redirect .dispose).withCookie .vehicleLookupDetails
    (VehicleDetailsModel.fromDto vehicleDetailsDto)).discardingCookie .preventGoingToDisposePage

def vehicleNotFoundResult (responseCode : String) : Result :=
  (redirect .vehicleLookupFailure).withCookie .vehicleLookupResponseCode responseCode

/-- There is only a response code when there is a problem. -/
def createResultFromVehicleLookupResponse (vehicleDetailsResponse : VehicleDetailsResponse) :
    Result :=
  match vehicleDetailsResponse.responseCode with
  | some responseCode => vehicleNotFoundResult responseCode
  | none =>
      match vehicleDetailsResponse.vehicleDetailsDto with
      | some dto => vehicleFoundResult dto
      | none => redirect .microServiceError

def vehicleLookupSuccessResponse (responseStatusVehicleLookupMS : ℤ)
    (vehicleDetailsResponse : Option VehicleDetailsResponse) : Result :=
  if responseStatusVehicleLookupMS = 200 then
    match vehicleDetailsResponse with
    | some response => createResultFromVehicleLookupResponse response
    | none => redirect .microServiceError
  else redirect .microServiceError

def lookupVehicleResult (model : VehicleLookupFormModel)
    (bruteForcePreventionViewModel : BruteForcePreventionViewModel) : Outcome Result := do
  let trackingId ← cookies.trackingId
  let traderDetails ← cookies.getModel .traderDetails
  let vehicleDetailsRequest : VehicleDetailsRequest :=
    { referenceNumber := model.referenceNumber
      registrationNumber := model.registrationNumber
      userName := traderDetails.elim "" TraderDetailsModel.traderName }
  let answer := vehicleLookupServiceInvoke environment.callVehicleLookupService
  Effects.Outcome.recover
    (do
      let (status, response) ←
        Effects.Outcome.call (.vehicleLookup vehicleDetailsRequest trackingId answer) answer
      return ((vehicleLookupSuccessResponse status response).withCookie
        .vehicleLookupFormModel model).withCookie
          .bruteForcePreventionViewModel bruteForcePreventionViewModel)
    fun _ => redirect .microServiceError

/-- The call of the brute force service, if the feature is enabled. -/
def callBruteForce (vrm : String) : Outcome BruteForcePreventionViewModel :=
  { calls := if config.isBruteForcePreventionEnabled then [.bruteForce vrm] else []
    result := isVrmLookupPermitted config environment.dateServiceAfterCall
      environment.callBruteForce }

/-- Whatever is raised behind the brute force service lets no one through. -/
def bruteForceAndLookup (formModel : VehicleLookupFormModel) : Outcome Result :=
  Effects.Outcome.recover
    (do
      let bruteForcePreventionViewModel ←
        callBruteForce config environment formModel.registrationNumber
      if bruteForcePreventionViewModel.permitted then
        lookupVehicleResult environment cookies formModel bruteForcePreventionViewModel
      else
        return (redirect .vrmLocked).withCookie .bruteForcePreventionViewModel
          bruteForcePreventionViewModel)
    fun _ => redirect .microServiceError

def submit (form : Form VehicleLookupFormModel) : Outcome Result :=
  match form.valid with
  | none => .ofExcept (invalidSubmit config environment cookies form)
  | some validForm =>
      bruteForceAndLookup config environment cookies (convertToUpperCaseAndRemoveSpaces validForm)

end VehicleLookup

namespace VehicleLookupFailure

def displayVehicleLookupFailure (vehicleLookUpFormModelDetails : VehicleLookupFormModel)
    (bruteForcePreventionViewModel : BruteForcePreventionViewModel)
    (vehicleLookupResponseCode : String) : Result :=
  (Result.ok (.vehicleLookupFailure vehicleLookUpFormModelDetails vehicleLookupResponseCode
    bruteForcePreventionViewModel.attempts
    bruteForcePreventionViewModel.maxAttempts)).discardingCookieNamed .vehicleLookupResponseCode

def present : Except Throwable Result := do
  match ← cookies.getModel .traderDetails, ← cookies.getModel .bruteForcePreventionViewModel,
      ← cookies.getModel .vehicleLookupFormModel,
      ← cookies.getString .vehicleLookupResponseCode with
  | some _, some bruteForcePreventionResponse, some vehicleLookUpFormModelDetails,
      some vehicleLookupResponseCode =>
      return displayVehicleLookupFailure vehicleLookUpFormModelDetails
        bruteForcePreventionResponse vehicleLookupResponseCode
  | _, _, _, _ => return redirect .setUpTradeDetails

def submit : Except Throwable Result := do
  match ← cookies.getModel .traderDetails, ← cookies.getModel .vehicleLookupFormModel with
  | some _, some _ => return redirect .vehicleLookup
  | _, _ => return redirect .beforeYouStart

end VehicleLookupFailure

namespace VrmLocked

def present : Except Throwable Result := do
  match ← cookies.getModel .bruteForcePreventionViewModel with
  | some viewModel => return .ok (.vrmLocked viewModel.dateTimeISOChronology)
  | none => return redirect .vehicleLookup

def newDisposal : Except Throwable Result := do
  match ← cookies.getModel .traderDetails with
  | some _ => return (redirect .vehicleLookup).discardingCookies RelatedCacheKeys.DisposeSet
  | none => return redirect .setUpTradeDetails

def exit : Result := (redirect .beforeYouStart).discardingCookies RelatedCacheKeys.FullSet

end VrmLocked

namespace Dispose

def createViewModel (traderDetails : TraderDetailsModel) (vehicleDetails : VehicleDetailsModel) :
    DisposeViewModel where
  registrationNumber := vehicleDetails.registrationNumber
  vehicleMake := vehicleDetails.vehicleMake
  vehicleModel := vehicleDetails.vehicleModel
  dealerName := traderDetails.traderName
  dealerAddress := traderDetails.traderAddress

def present : Except Throwable Result := do
  match ← cookies.getModel .traderDetails, ← cookies.getString .preventGoingToDisposePage with
  | some traderDetails, none => do
      match ← cookies.getModel .vehicleLookupDetails with
      | some vehicleDetails =>
          return .ok (.dispose (createViewModel traderDetails vehicleDetails)
            (← cookies.fill .disposeFormModel) environment.dateService.today)
      | none => return redirect .vehicleLookup
  | _, some _ => return (redirect .vehicleLookup).discardingCookie .preventGoingToDisposePage
  | none, none => return redirect .setUpTradeDetails

/-- `String.toBoolean`; no other letters have those of the two words as their lower case. -/
def toBoolean (s : String) : Except Throwable Bool :=
  if s.toList.map Char.toLower = "true".toList then .ok true
  else if s.toList.map Char.toLower = "false".toList then .ok false
  else .error (badInput s)

def handleResponseCode (disposeResponseCode : String) : Route :=
  if disposeResponseCode = "ms.vehiclesService.response.unableToProcessApplication" then
    .disposeFailure
  else if disposeResponseCode = "ms.vehiclesService.response.duplicateDisposalToTrade" then
    .duplicateDisposalError
  else .microServiceError

def handleHttpStatusCode (statusCode : ℤ) : Route :=
  if statusCode = 200 then .disposeSuccess
  else if statusCode = 503 then .soapEndpointError
  else .microServiceError

def nextPage (httpResponseCode : ℤ) (response : Option DisposeResponse) : Route :=
  match response.bind DisposeResponse.responseCode with
  | some responseCode => handleResponseCode responseCode
  | none => handleHttpStatusCode httpResponseCode

def storeResponseInCache (response : Option DisposeResponse) (nextPage : Result) : Result :=
  match response with
  | some o =>
      let nextPageWithTransactionId :=
        if o.transactionId ≠ "" then nextPage.withCookie .disposeFormTransactionId o.transactionId
        else nextPage
      if o.registrationNumber ≠ "" then
        nextPageWithTransactionId.withCookie .disposeFormRegistrationNumber o.registrationNumber
      else nextPageWithTransactionId
  | none => nextPage

def transactionTimestamp (dateService : DateService joda) (nextPage : Result) :
    Except Throwable Result := do
  let timestamp ← getOrThrow (dateService.today.toDateTime joda)
  return nextPage.withCookie .disposeFormTimestampId (joda.isoDateTime timestamp)

def buildDisposeMicroServiceRequest (disposeModel : DisposeModel)
    (traderDetails : TraderDetailsModel) : Except Throwable DisposeRequest := do
  let dateTime ← getOrThrow (disposeModel.dateOfDisposal.toDateTime joda)
  let traderAddress ← DisposalAddressDto.fromViewModel traderDetails.traderAddress
  let timestamp ← getOrThrow (environment.dateService.today.toDateTime joda)
  let prConsent ← toBoolean disposeModel.lossOfRegistrationConsent
  let keeperConsent ← toBoolean disposeModel.consent
  return { referenceNumber := disposeModel.referenceNumber
           registrationNumber := disposeModel.registrationNumber
           traderName := traderDetails.traderName
           traderAddress := traderAddress
           dateOfDisposal := joda.isoDateTime dateTime
           transactionTimestamp := joda.isoDateTime timestamp
           prConsent := prConsent
           keeperConsent := keeperConsent
           mileage := disposeModel.mileage }

/-- The result that stores an answer of the service. -/
def storeAnswer (disposeModel : DisposeModel) (disposeFormModel : DisposeFormModel)
    (httpResponseCode : ℤ) (response : Option DisposeResponse) : Except Throwable Result := do
  let stored := storeResponseInCache response
    (((redirect (nextPage httpResponseCode response)).withCookie .disposeModel
      disposeModel).withCookie .disposeFormModel disposeFormModel)
  let timestamped ← transactionTimestamp environment.dateServiceAfterCall stored
  return timestamped.withCookie .preventGoingToDisposePage ""

def callMicroService (disposeModel : DisposeModel) (disposeFormModel : DisposeFormModel)
    (traderDetails : TraderDetailsModel) (trackingId : String) : Outcome Result := do
  let disposeRequest ← buildDisposeMicroServiceRequest environment disposeModel traderDetails
  let answer := disposeServiceInvoke environment.callDisposeService
  Effects.Outcome.recover
    (do
      let (httpResponseCode, response) ←
        Effects.Outcome.call (.dispose disposeRequest trackingId answer) answer
      storeAnswer environment disposeModel disposeFormModel httpResponseCode response)
    fun _ => redirect .microServiceError

def disposeAction (disposeFormModel : DisposeFormModel) (trackingId : String) :
    Outcome Result := do
  match ← cookies.getModel .traderDetails, ← cookies.getModel .vehicleLookupFormModel with
  | some traderDetails, some vehicleLookup =>
      let disposeModel : DisposeModel :=
        { referenceNumber := vehicleLookup.referenceNumber
          registrationNumber := vehicleLookup.registrationNumber
          dateOfDisposal := disposeFormModel.dateOfDisposal
          consent := disposeFormModel.consent
          lossOfRegistrationConsent := disposeFormModel.lossOfRegistrationConsent
          mileage := disposeFormModel.mileage }
      callMicroService environment disposeModel disposeFormModel traderDetails trackingId
  | _, _ => return redirect .setUpTradeDetails

def invalidSubmit (form : Form DisposeFormModel) : Except Throwable Result := do
  match ← cookies.getModel .traderDetails, ← cookies.getModel .vehicleLookupDetails with
  | some traderDetails, some vehicleDetails =>
      return .badRequest (.dispose (createViewModel traderDetails vehicleDetails)
        (formWithReplacedErrors form) environment.dateService.today)
  | _, _ => return redirect .setUpTradeDetails

/-- The flag prevents going back with the browser's button and submitting again. -/
def submit (form : Form DisposeFormModel) : Outcome Result :=
  match form.valid with
  | none => .ofExcept (invalidSubmit environment cookies form)
  | some validForm => do
      match ← cookies.getString .preventGoingToDisposePage with
      | some _ => return redirect .vehicleLookup
      | none => do
          let trackingId ← cookies.trackingId
          disposeAction environment cookies validForm trackingId

end Dispose

namespace DisposeFailure

def createViewModel (traderDetails : TraderDetailsModel) (vehicleDetails : VehicleDetailsModel)
    (transactionId : Option String) : DisposeViewModel where
  registrationNumber := vehicleDetails.registrationNumber
  vehicleMake := vehicleDetails.vehicleMake
  vehicleModel := vehicleDetails.vehicleModel
  dealerName := traderDetails.traderName
  dealerAddress := traderDetails.traderAddress
  transactionId := transactionId

def present : Except Throwable Result := do
  match ← cookies.getModel .traderDetails, ← cookies.getModel .disposeFormModel,
      ← cookies.getModel .vehicleLookupDetails,
      ← cookies.getString .disposeFormTransactionId with
  | some dealerDetails, some disposeFormModel, some vehicleDetails, some transactionId =>
      return .ok (.disposeFailure
        (createViewModel dealerDetails vehicleDetails (some transactionId)) disposeFormModel)
  | _, _, _, _ => return redirect .setUpTradeDetails

end DisposeFailure

namespace DisposeSuccess

def createViewModel (traderDetails : TraderDetailsModel) (vehicleDetails : VehicleDetailsModel)
    (transactionId : Option String) (registrationNumber : String) : DisposeViewModel where
  vehicleMake := vehicleDetails.vehicleMake
  vehicleModel := vehicleDetails.vehicleModel
  dealerName := traderDetails.traderName
  dealerAddress := traderDetails.traderAddress
  transactionId := transactionId
  registrationNumber := registrationNumber

def present : Except Throwable Result := do
  match ← cookies.getModel .traderDetails, ← cookies.getModel .disposeFormModel,
      ← cookies.getModel .vehicleLookupDetails,
      ← cookies.getString .disposeFormTransactionId,
      ← cookies.getString .disposeFormRegistrationNumber with
  | some traderDetails, some disposeFormModel, some vehicleDetails, some transactionId,
      some registrationNumber =>
      return (Result.ok (.disposeSuccess
        (createViewModel traderDetails vehicleDetails (some transactionId) registrationNumber)
        disposeFormModel (← surveyUrl config cookies environment.dateService))).discardingCookies
          RelatedCacheKeys.DisposeOnlySet
  | _, _, _, _, _ => return redirect .vehicleLookup

def newDisposal : Except Throwable Result := do
  match ← cookies.getModel .traderDetails, ← cookies.getModel .vehicleLookupDetails with
  | some _, some _ =>
      return ((redirect .vehicleLookup).discardingCookies RelatedCacheKeys.DisposeSet).withCookie
        .preventGoingToDisposePage "" |>.withCookie .disposeOccurred ""
  | _, _ => return redirect .setUpTradeDetails

def exit : Result :=
  ((redirect .beforeYouStart).discardingCookies RelatedCacheKeys.FullSet).withCookie
    .preventGoingToDisposePage "" |>.withCookie
      .surveyRequestTriggerDate (toString environment.dateService.nowMillis)

end DisposeSuccess

namespace Help

def present (referer : Option String) : Result :=
  (Result.ok .help).withCookie .help (referer.getD "No Referer in header")

def back : Except Throwable Result := do
  let origin := (← cookies.getString .help).getD BeforeYouStart.url
  return { content := .redirectTo origin }

end Help

/-- `AlternateLanguages.withLanguage`, for a chosen language whose code Play recognizes. -/
def withLanguage (code : String) (referer : Option String) : Result :=
  Result.withLang { content := .redirectTo (referer.getD "No Referer in header") } code

/-! ### The routes -/

/-- The requests of the wizard. A submission carries the form that was bound from it. -/
inductive Request
  | index
  | beforeYouStartPresent
  | beforeYouStartSubmit
  | setUpTradeDetailsPresent
  | setUpTradeDetailsSubmit (form : Form SetupTradeDetailsModel)
  | businessChooseYourAddressPresent
  | businessChooseYourAddressSubmit (form : Form BusinessChooseYourAddressModel)
  | enterAddressManuallyPresent
  | enterAddressManuallySubmit (form : Form EnterAddressManuallyModel)
  | vehicleLookupPresent
  | vehicleLookupSubmit (form : Form VehicleLookupFormModel)
  | vehicleLookupExit
  | vehicleLookupBack
  | disposePresent
  | disposeSubmit (form : Form DisposeFormModel)
  | disposeSuccessPresent
  | disposeSuccessNewDisposal
  | disposeSuccessExit
  | disposeFailurePresent
  | vehicleLookupFailurePresent
  | vehicleLookupFailureSubmit
  | uprnNotFoundPresent
  | duplicateDisposalErrorPresent
  | microServiceErrorPresent
  | soapEndpointErrorPresent
  | vrmLockedPresent
  | vrmLockedNewDisposal
  | vrmLockedExit
  | errorPresent (exceptionDigest : String)
  | errorSubmit (exceptionDigest : String)
  | helpPresent (referer : Option String)
  | helpBack
  | withLanguage (code : String) (referer : Option String)
  deriving DecidableEq, Repr

/-- An action that calls no service. -/
def action (result : Except Throwable Result) : Outcome Response :=
  .ofExcept (result.map .result)

/-- An action that calls services. -/
def serviceAction (outcome : Outcome Result) : Outcome Response := outcome.map .result

/-- The routes to the actions of the controllers. -/
def handle : Request → Outcome Response
  | .index => action (.ok { content := .redirectTo config.startUrl })
  | .beforeYouStartPresent => action (.ok BeforeYouStart.present)
  | .beforeYouStartSubmit => action (.ok BeforeYouStart.submit)
  | .setUpTradeDetailsPresent => action (SetUpTradeDetails.present cookies)
  | .setUpTradeDetailsSubmit form => action (.ok (SetUpTradeDetails.submit form))
  | .businessChooseYourAddressPresent =>
      serviceAction (BusinessChooseYourAddress.present environment cookies)
  | .businessChooseYourAddressSubmit form =>
      serviceAction (BusinessChooseYourAddress.submit environment cookies form)
  | .enterAddressManuallyPresent => action (EnterAddressManually.present cookies)
  | .enterAddressManuallySubmit form => action (EnterAddressManually.submit cookies form)
  | .vehicleLookupPresent => action (VehicleLookup.present config environment cookies)
  | .vehicleLookupSubmit form =>
      serviceAction (VehicleLookup.submit config environment cookies form)
  | .vehicleLookupExit => action (.ok (VehicleLookup.exit environment))
  | .vehicleLookupBack => action (VehicleLookup.back cookies)
  | .disposePresent => action (Dispose.present environment cookies)
  | .disposeSubmit form => serviceAction (Dispose.submit environment cookies form)
  | .disposeSuccessPresent => action (DisposeSuccess.present config environment cookies)
  | .disposeSuccessNewDisposal => action (DisposeSuccess.newDisposal cookies)
  | .disposeSuccessExit => action (.ok (DisposeSuccess.exit environment))
  | .disposeFailurePresent => action (DisposeFailure.present cookies)
  | .vehicleLookupFailurePresent => action (VehicleLookupFailure.present cookies)
  | .vehicleLookupFailureSubmit => action (VehicleLookupFailure.submit cookies)
  | .uprnNotFoundPresent => action (.ok (.ok .uprnNotFound))
  | .duplicateDisposalErrorPresent => action (.ok (.ok .duplicateDisposalError))
  | .microServiceErrorPresent => action (.ok (.ok .microServiceError))
  | .soapEndpointErrorPresent => action (.ok (.ok .soapEndpointError))
  | .vrmLockedPresent => action (VrmLocked.present cookies)
  | .vrmLockedNewDisposal => action (VrmLocked.newDisposal cookies)
  | .vrmLockedExit => action (.ok VrmLocked.exit)
  | .errorPresent exceptionDigest => action (.ok (.ok (.error exceptionDigest)))
  | .errorSubmit _ => ⟨[], .ok .discardAllCookies⟩
  | .helpPresent referer => action (.ok (Help.present referer))
  | .helpBack => action (Help.back cookies)
  | .withLanguage code referer => action (.ok (withLanguage code referer))

end VehiclesOnline
