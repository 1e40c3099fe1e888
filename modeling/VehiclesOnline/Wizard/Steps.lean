import VehiclesOnline.Wizard.Vehicle

/-! What one request to the wizard can do: the calls of services that it leads to, the content
of the response and the edits of the cookies, with the data that they are made of. -/

namespace VehiclesOnline

open Result (redirect)
open Effects.Outcome (lift_ok_bind lift_error_bind call_ok_bind)

variable {joda : Joda} {config : Config} {environment : Environment joda}
variable {data : ApplicationData} {trackingId : String}

/-- The form that is shown for what is kept under a key. -/
def Form.ofOption {Model : Type} : Option Model → Form Model
  | some model => .fill model
  | none => {}

namespace RequestCookies

variable (trackingId : String) (data : ApplicationData) (key : CacheKey)

@[simp] theorem getModel_ofData : (ofData trackingId data).getModel key = .ok (data key) := rfl

@[simp] theorem hasCookie_ofData :
    (ofData trackingId data).hasCookie key = .ok (data key).isSome := rfl

@[simp] theorem trackingId_ofData : (ofData trackingId data).trackingId = .ok trackingId := rfl

@[simp] theorem fill_ofData :
    (ofData trackingId data).fill key = .ok (Form.ofOption (data key)) := by
  simp only [fill, getModel_ofData]
  cases data key with
  | none => rfl
  | some model => rfl

end RequestCookies

/-- Content of which no claim is made: a redirect, or a page that shows no vehicle, no survey
and no outcome of a disposal. -/
def Content.Plain : Content → Prop
  | ok (.vehicleLookup _ _ _ _) => False
  | badRequest (.vehicleLookup _ _ _ _) => False
  | ok (.dispose _ _ _) => False
  | ok (.disposeSuccess _ _ _) => False
  | ok (.disposeFailure _ _) => False
  | _ => True

/-! ### Results that store what was entered, found or answered -/

def SetUpTradeDetails.enteredResult (model : SetupTradeDetailsModel) : Result :=
  (redirect .businessChooseYourAddress).withCookie .setupTradeDetails model

def BusinessChooseYourAddress.chosenResult (model : BusinessChooseYourAddressModel)
    (traderName : String) (address : AddressViewModel) : Result :=
  ((redirect .vehicleLookup).discardingCookie .enterAddressManually).withCookie
    .businessChooseYourAddress model |>.withCookie .traderDetails
      { traderName := traderName, traderAddress := address }

def EnterAddressManually.enteredResult (model : EnterAddressManuallyModel)
    (setup : SetupTradeDetailsModel) : Result :=
  ((redirect .vehicleLookup).withCookie .enterAddressManually model).withCookie .traderDetails
    { traderName := setup.traderBusinessName
      traderAddress := .fromModel model.addressAndPostcodeModel setup.traderPostcode }

def VehicleLookup.lockedResult (viewModel : BruteForcePreventionViewModel) : Result :=
  (redirect .vrmLocked).withCookie .bruteForcePreventionViewModel viewModel

/-- The result of a lookup, with the form that was looked up as it is stored. -/
def VehicleLookup.storedResult (inner : Result) (model : VehicleLookupFormModel)
    (viewModel : BruteForcePreventionViewModel) : Result :=
  (inner.withCookie .vehicleLookupFormModel
    (convertToUpperCaseAndRemoveSpaces model)).withCookie .bruteForcePreventionViewModel viewModel

namespace Dispose

/-- The disposal of the vehicle that was looked up. -/
def disposeModelOf (vehicleLookup : VehicleLookupFormModel)
    (disposeFormModel : DisposeFormModel) : DisposeModel where
  referenceNumber := vehicleLookup.referenceNumber
  registrationNumber := vehicleLookup.registrationNumber
  dateOfDisposal := disposeFormModel.dateOfDisposal
  consent := disposeFormModel.consent
  lossOfRegistrationConsent := disposeFormModel.lossOfRegistrationConsent
  mileage := disposeFormModel.mileage

/-- The time of the server, which can always be printed. -/
def timestamp (dateService : DateService joda) : String :=
  joda.isoDateTime
    ((dateService.today.toDateTime joda).get
      (DayMonthYear.isSome_toDateTime_today dateService.dateTimeNow))

/-- The result of a disposal that the service answered. -/
def storedResult (environment : Environment joda) (disposeModel : DisposeModel)
    (disposeFormModel : DisposeFormModel) (httpResponseCode : ℤ)
    (response : Option DisposeResponse) : Result :=
  ((storeResponseInCache response
    (((redirect (nextPage httpResponseCode response)).withCookie .disposeModel
      disposeModel).withCookie .disposeFormModel disposeFormModel)).withCookie
        .disposeFormTimestampId (timestamp environment.dateServiceAfterCall)).withCookie
          .preventGoingToDisposePage ""

end Dispose

namespace DisposeSuccess

def shownResult (traderDetails : TraderDetailsModel) (disposeFormModel : DisposeFormModel)
    (vehicleDetails : VehicleDetailsModel) (transactionId registrationNumber : String)
    (surveyUrl : Option String) : Result :=
  (Result.ok (.disposeSuccess
    (createViewModel traderDetails vehicleDetails (some transactionId) registrationNumber)
    disposeFormModel surveyUrl)).discardingCookies RelatedCacheKeys.DisposeOnlySet

def newDisposalResult : Result :=
  ((redirect .vehicleLookup).discardingCookies RelatedCacheKeys.DisposeSet).withCookie
    .preventGoingToDisposePage "" |>.withCookie .disposeOccurred ""

end DisposeSuccess

/-- What is not stored by a result that only stores is as it was. -/
theorem Result.data_of_withCookie {r : Result} {keys : List CacheKey}
    (h : ∀ edit ∈ r.edits, ∃ key ∈ keys, ∃ model, edit = .withCookie key model) {key : CacheKey}
    (hkey : key ∉ keys) (kind : SessionKind) (data : ApplicationData) :
    r.data kind data key = data key := by
  apply KeyValue.assignAll_of_forall_ne
  intro assignment hmem
  obtain ⟨edit, hedit, hassignment⟩ := List.mem_flatMap.mp hmem
  obtain ⟨key', hkey', model, rfl⟩ := h edit hedit
  rw [List.mem_singleton.mp hassignment]
  rintro rfl
  exact hkey hkey'

/-- The language is not kept with the data. -/
theorem Result.data_of_withLang {r : Result}
    (h : ∀ edit ∈ r.edits, ∃ code, edit = .withLang code) (kind : SessionKind)
    (data : ApplicationData) : (Response.result r).data kind data = data := by
  funext key
  apply KeyValue.assignAll_of_forall_ne
  intro assignment hmem
  obtain ⟨edit, hedit, hassignment⟩ := List.mem_flatMap.mp hmem
  obtain ⟨code, rfl⟩ := h edit hedit
  exact absurd hassignment List.not_mem_nil

/-- What a response does not store is as it was, or gone. -/
theorem Response.data_eq_or_none {response : Response} {key : CacheKey}
    (h : ∀ model, .withCookie key model ∉ response.edits) (kind : SessionKind)
    (data : ApplicationData) :
    response.data kind data key = data key ∨ response.data kind data key = none := by
  cases response with
  | discardAllCookies => exact .inr rfl
  | result r =>
      refine KeyValue.assignAll_eq_or_none (fun model hmem => ?_) data
      obtain ⟨edit, hedit, hassignment⟩ := List.mem_flatMap.mp hmem
      cases edit with
      | withCookie key' model' =>
          cases List.mem_singleton.mp hassignment
          exact h model hedit
      | discardingCookies keys =>
          obtain ⟨key', -, hkey'⟩ := List.mem_map.mp hassignment
          cases hkey'
      | discardingCookieNamed key' =>
          cases kind with
          | clearText => cases List.mem_singleton.mp hassignment
          | encrypted => exact absurd hassignment List.not_mem_nil
      | withLang code => exact absurd hassignment List.not_mem_nil

/-! ### What an answered disposal stores -/

namespace Dispose

/-- A text of the response, if it is not empty. -/
def nonEmptyText (text : DisposeResponse → String) (response : Option DisposeResponse) :
    Option String :=
  response.bind fun o => if text o ≠ "" then some (text o) else none

def storedKeys : List CacheKey :=
  [.disposeModel, .disposeFormModel, .disposeFormTransactionId, .disposeFormRegistrationNumber,
    .disposeFormTimestampId, .preventGoingToDisposePage]

/-- The data after an answer: what is empty in it leaves what was stored before. -/
structure StoresAnswer (disposeFormModel : DisposeFormModel) (response : Option DisposeResponse)
    (data data' : ApplicationData) : Prop where
  disposeFormModel : data' .disposeFormModel = some disposeFormModel
  preventGoingToDisposePage : data' .preventGoingToDisposePage = some ""
  transactionId : data' .disposeFormTransactionId =
    (nonEmptyText DisposeResponse.transactionId response).or (data .disposeFormTransactionId)
  registrationNumber : data' .disposeFormRegistrationNumber =
    (nonEmptyText DisposeResponse.registrationNumber response).or
      (data .disposeFormRegistrationNumber)
  others : ∀ key ∉ storedKeys, data' key = data key

theorem nonEmptyText_of_ne {text : DisposeResponse → String} {o : DisposeResponse}
    (h : text o ≠ "") : nonEmptyText text (some o) = some (text o) := if_pos h

theorem nonEmptyText_of_eq {text : DisposeResponse → String} {o : DisposeResponse}
    (h : text o = "") : nonEmptyText text (some o) = none := if_neg (not_not.mpr h)

theorem storedResult_content (environment : Environment joda) (disposeModel : DisposeModel)
    (disposeFormModel : DisposeFormModel) (status : ℤ) (response : Option DisposeResponse) :
    (storedResult environment disposeModel disposeFormModel status response).content =
      .redirect (nextPage status response) := by
  cases response with
  | none => rfl
  | some o =>
      simp only [storedResult, storeResponseInCache]
      split <;> split <;> rfl

/-- Every edit of the result is about one of the keys. -/
theorem storedResult_edits (environment : Environment joda) (disposeModel : DisposeModel)
    (disposeFormModel : DisposeFormModel) (status : ℤ) (response : Option DisposeResponse) :
    ∀ edit ∈ (storedResult environment disposeModel disposeFormModel status response).edits,
      ∃ key ∈ storedKeys, ∃ model, edit = .withCookie key model := by
  cases response with
  | none => simp [storedResult, storeResponseInCache, Result.withCookie, redirect, storedKeys]
  | some o =>
      simp only [storedResult, storeResponseInCache]
      split <;> split <;> simp [Result.withCookie, redirect, storedKeys]

theorem storedResult_storesAnswer (environment : Environment joda) (disposeModel : DisposeModel)
    (disposeFormModel : DisposeFormModel) (status : ℤ) (response : Option DisposeResponse)
    (kind : SessionKind) (data : ApplicationData) :
    StoresAnswer disposeFormModel response data
      ((storedResult environment disposeModel disposeFormModel status response).data kind
        data) := by
  have hothers : ∀ key ∉ storedKeys, (storedResult environment disposeModel disposeFormModel status
      response).data kind data key = data key := fun key hkey =>
    Result.data_of_withCookie (storedResult_edits environment disposeModel disposeFormModel status
      response) hkey kind data
  cases response with
  | none => exact ⟨rfl, rfl, rfl, rfl, hothers⟩
  | some o =>
      refine ⟨?_, ?_, ?_, ?_, hothers⟩
      · simp only [storedResult, storeResponseInCache]
        split <;> split <;> rfl
      · simp only [storedResult, storeResponseInCache]
        split <;> split <;> rfl
      · simp only [storedResult, storeResponseInCache]
        by_cases h : o.transactionId = ""
        · rw [nonEmptyText_of_eq h, if_neg (not_not.mpr h)]
          split <;> rfl
        · rw [nonEmptyText_of_ne h, if_pos h]
          split <;> rfl
      · simp only [storedResult, storeResponseInCache]
        by_cases h : o.registrationNumber = ""
        · rw [nonEmptyText_of_eq h, if_neg (not_not.mpr h)]
          split <;> rfl
        · rw [nonEmptyText_of_ne h, if_pos h]
          split <;> rfl

/-- A valid form that the session lets through to the service, with what it is sent with. -/
structure LetThrough (data : ApplicationData) (request : Request)
    (disposeFormModel : DisposeFormModel) (trader : TraderDetailsModel)
    (model : VehicleLookupFormModel) : Prop where
  submitted : ∃ form, request = .disposeSubmit form ∧ form.valid = some disposeFormModel
  opened : data .preventGoingToDisposePage = none
  trader : data .traderDetails = some trader
  lookup : data .vehicleLookupFormModel = some model

/-- The confirmation page was requested and shows what the session holds, which stays as it
is. -/
structure ShowsConfirmation (data : ApplicationData) (request : Request)
    (form : Form DisposeFormModel) (response : Response) : Prop where
  requested : request = .disposePresent
  trader : data .traderDetails ≠ none
  opened : data .preventGoingToDisposePage = none
  vehicle : data .vehicleLookupDetails ≠ none
  form : form = .ofOption (data .disposeFormModel)
  kept : ∀ kind, response.data kind data = data

end Dispose

/-! ### Steps -/

variable (config) (trackingId : String) (data : ApplicationData) (exchange : Exchange joda)

/-- What a request to a session that holds the data can lead to. -/
inductive WizardStep : List ServiceCall → Response → Prop
  /-- Nothing is stored, and what is shown is plain. -/
  | plain {calls : List ServiceCall} {r : Result} (hcalls : ∀ call ∈ calls, call.Routine)
      (hedits : ∀ edit ∈ r.edits, ∃ code, edit = .withLang code) (hcontent : r.content.Plain) :
      WizardStep calls (.result r)
  | forgets {calls : List ServiceCall} (hcalls : ∀ call ∈ calls, call.Routine) :
      WizardStep calls .discardAllCookies
  | startsOver (hrequest : exchange.request = .beforeYouStartPresent) :
      WizardStep [] (.result BeforeYouStart.present)
  | entersTradeDetails {form : Form SetupTradeDetailsModel} {model : SetupTradeDetailsModel}
      (hrequest : exchange.request = .setUpTradeDetailsSubmit form)
      (hvalid : form.valid = some model) :
      WizardStep [] (.result (SetUpTradeDetails.enteredResult model))
  | choosesAddress {form : Form BusinessChooseYourAddressModel}
      {model : BusinessChooseYourAddressModel} {setup : SetupTradeDetailsModel}
      {address : AddressViewModel}
      (hrequest : exchange.request = .businessChooseYourAddressSubmit form)
      (hvalid : form.valid = some model) (hsetup : data .setupTradeDetails = some setup)
      (haddress : exchange.environment.fetchAddressForUprn = .ok (some address)) :
      WizardStep [.addressForUprn model.uprnSelected trackingId]
        (.result (BusinessChooseYourAddress.chosenResult model setup.traderBusinessName address))
  | entersAddress {form : Form EnterAddressManuallyModel} {model : EnterAddressManuallyModel}
      {setup : SetupTradeDetailsModel}
      (hrequest : exchange.request = .enterAddressManuallySubmit form)
      (hvalid : form.valid = some model) (hsetup : data .setupTradeDetails = some setup) :
      WizardStep [] (.result (EnterAddressManually.enteredResult model setup))
  /-- The page of the lookup offers the survey, where it has the exit button. -/
  | showsLookup {r : Result} {trader : TraderDetailsModel} {form : Form VehicleLookupFormModel}
      {url : Option String} (htrader : data .traderDetails = some trader)
      (hurl : surveyUrl config (.ofData trackingId data) exchange.environment.dateService = .ok url)
      (hresult : r = .ok (.vehicleLookup trader form (data .disposeOccurred).isSome url) ∨
        r = .badRequest (.vehicleLookup trader form (data .disposeOccurred).isSome url))
      (hrequest : exchange.request = .vehicleLookupPresent ∨
        ∃ form, exchange.request = .vehicleLookupSubmit form ∧ form.valid = none) :
      WizardStep [] (.result r)
  | exitsLookup (hrequest : exchange.request = .vehicleLookupExit) :
      WizardStep [] (.result (VehicleLookup.exit exchange.environment))
  | locked {form : Form VehicleLookupFormModel} {calls : List ServiceCall}
      {viewModel : BruteForcePreventionViewModel}
      (hrequest : exchange.request = .vehicleLookupSubmit form)
      (hcalls : ∀ call ∈ calls, call.Routine) :
      WizardStep calls (.result (VehicleLookup.lockedResult viewModel))
  | finds {form : Form VehicleLookupFormModel} {model : VehicleLookupFormModel}
      {before : List ServiceCall} {lookup : VehicleDetailsRequest}
      {viewModel : BruteForcePreventionViewModel} {answer : Answer VehicleDetailsResponse}
      {dto : VehicleDetailsDto} (hrequest : exchange.request = .vehicleLookupSubmit form)
      (hvalid : form.valid = some model) (hbefore : ∀ call ∈ before, call.Routine)
      (hfound : foundVehicle answer = some dto) :
      WizardStep (before ++ [.vehicleLookup lookup trackingId (.ok answer)])
        (.result (VehicleLookup.storedResult (VehicleLookup.vehicleFoundResult dto) model
          viewModel))
  | findsNothing {form : Form VehicleLookupFormModel} {model : VehicleLookupFormModel}
      {before : List ServiceCall} {lookup : VehicleDetailsRequest}
      {viewModel : BruteForcePreventionViewModel} {answer : Answer VehicleDetailsResponse}
      {responseCode : String} (hrequest : exchange.request = .vehicleLookupSubmit form)
      (hvalid : form.valid = some model) (hbefore : ∀ call ∈ before, call.Routine)
      (hfound : foundVehicle answer = none) :
      WizardStep (before ++ [.vehicleLookup lookup trackingId (.ok answer)])
        (.result (VehicleLookup.storedResult (VehicleLookup.vehicleNotFoundResult responseCode)
          model viewModel))
  | lookupFails {form : Form VehicleLookupFormModel} {model : VehicleLookupFormModel}
      {before : List ServiceCall} {lookup : VehicleDetailsRequest}
      {viewModel : BruteForcePreventionViewModel} {answer : Answer VehicleDetailsResponse}
      (hrequest : exchange.request = .vehicleLookupSubmit form)
      (hvalid : form.valid = some model) (hbefore : ∀ call ∈ before, call.Routine)
      (hfound : foundVehicle answer = none) :
      WizardStep (before ++ [.vehicleLookup lookup trackingId (.ok answer)])
        (.result (VehicleLookup.storedResult (redirect .microServiceError) model viewModel))
  | showsLookupFailure {model : VehicleLookupFormModel} {responseCode : String}
      {viewModel : BruteForcePreventionViewModel}
      (hrequest : exchange.request = .vehicleLookupFailurePresent) :
      WizardStep []
        (.result (VehicleLookupFailure.displayVehicleLookupFailure model viewModel responseCode))
  | newDisposalAfterLock (hrequest : exchange.request = .vrmLockedNewDisposal)
      (htrader : data .traderDetails ≠ none) :
      WizardStep []
        (.result ((redirect .vehicleLookup).discardingCookies RelatedCacheKeys.DisposeSet))
  | exitsLock (hrequest : exchange.request = .vrmLockedExit) :
      WizardStep [] (.result VrmLocked.exit)
  | showsDispose {trader : TraderDetailsModel} {vehicle : VehicleDetailsModel}
      (hrequest : exchange.request = .disposePresent)
      (htrader : data .traderDetails = some trader)
      (hopen : data .preventGoingToDisposePage = none)
      (hvehicle : data .vehicleLookupDetails = some vehicle) :
      WizardStep [] (.result (.ok (.dispose (Dispose.createViewModel trader vehicle)
        (.ofOption (data .disposeFormModel)) exchange.environment.dateService.today)))
  | reopens (hrequest : exchange.request = .disposePresent)
      (hbarred : data .preventGoingToDisposePage ≠ none) :
      WizardStep []
        (.result ((redirect .vehicleLookup).discardingCookie .preventGoingToDisposePage))
  | disposed {form : Form DisposeFormModel} {disposeFormModel : DisposeFormModel}
      {trader : TraderDetailsModel} {model : VehicleLookupFormModel} {disposal : DisposeRequest}
      {status : ℤ} {response : Option DisposeResponse}
      (hrequest : exchange.request = .disposeSubmit form)
      (hvalid : form.valid = some disposeFormModel)
      (hopen : data .preventGoingToDisposePage = none)
      (htrader : data .traderDetails = some trader)
      (hmodel : data .vehicleLookupFormModel = some model)
      (hbuild : Dispose.buildDisposeMicroServiceRequest exchange.environment
        (Dispose.disposeModelOf model disposeFormModel) trader = .ok disposal)
      (hanswer : disposeServiceInvoke exchange.environment.callDisposeService =
        .ok (status, response)) :
      WizardStep [.dispose disposal trackingId (.ok (status, response))]
        (.result (Dispose.storedResult exchange.environment
          (Dispose.disposeModelOf model disposeFormModel) disposeFormModel status response))
  | disposeFails {form : Form DisposeFormModel} {disposeFormModel : DisposeFormModel}
      {trader : TraderDetailsModel} {model : VehicleLookupFormModel} {disposal : DisposeRequest}
      {cause : Throwable} (hrequest : exchange.request = .disposeSubmit form)
      (hvalid : form.valid = some disposeFormModel)
      (hopen : data .preventGoingToDisposePage = none)
      (htrader : data .traderDetails = some trader)
      (hmodel : data .vehicleLookupFormModel = some model)
      (hbuild : Dispose.buildDisposeMicroServiceRequest exchange.environment
        (Dispose.disposeModelOf model disposeFormModel) trader = .ok disposal)
      (hanswer : disposeServiceInvoke exchange.environment.callDisposeService = .error cause) :
      WizardStep [.dispose disposal trackingId (.error cause)]
        (.result (redirect .microServiceError))
  | showsSuccess {trader : TraderDetailsModel} {disposeFormModel : DisposeFormModel}
      {vehicle : VehicleDetailsModel} {transactionId registrationNumber : String}
      {url : Option String} (hrequest : exchange.request = .disposeSuccessPresent)
      (htrader : data .traderDetails = some trader)
      (hform : data .disposeFormModel = some disposeFormModel)
      (hvehicle : data .vehicleLookupDetails = some vehicle)
      (htransactionId : data .disposeFormTransactionId = some transactionId)
      (hregistrationNumber : data .disposeFormRegistrationNumber = some registrationNumber)
      (hurl : surveyUrl config (.ofData trackingId data) exchange.environment.dateService =
        .ok url) :
      WizardStep [] (.result (DisposeSuccess.shownResult trader disposeFormModel vehicle
        transactionId registrationNumber url))
  | newDisposal (hrequest : exchange.request = .disposeSuccessNewDisposal)
      (htrader : data .traderDetails ≠ none) (hvehicle : data .vehicleLookupDetails ≠ none) :
      WizardStep [] (.result DisposeSuccess.newDisposalResult)
  | exitsSuccess (hrequest : exchange.request = .disposeSuccessExit) :
      WizardStep [] (.result (DisposeSuccess.exit exchange.environment))
  | showsFailure {trader : TraderDetailsModel} {disposeFormModel : DisposeFormModel}
      {vehicle : VehicleDetailsModel} {transactionId : String}
      (hrequest : exchange.request = .disposeFailurePresent)
      (htrader : data .traderDetails = some trader)
      (hform : data .disposeFormModel = some disposeFormModel)
      (hvehicle : data .vehicleLookupDetails = some vehicle)
      (htransactionId : data .disposeFormTransactionId = some transactionId) :
      WizardStep [] (.result (.ok (.disposeFailure
        (DisposeFailure.createViewModel trader vehicle (some transactionId)) disposeFormModel)))
  | asksForHelp {referer : Option String} (hrequest : exchange.request = .helpPresent referer) :
      WizardStep [] (.result (Help.present referer))

/-! ### Steps of every kind -/

namespace WizardStep

variable {config trackingId data exchange} {calls : List ServiceCall}

theorem raises (hcalls : ∀ call ∈ calls, call.Routine) (cause : Throwable) :
    WizardStep config trackingId data exchange calls (errorResponse cause) := by
  obtain ⟨exceptionClass, message⟩ := cause
  cases exceptionClass with
  | badPaddingException => exact .forgets hcalls
  | invalidSessionException => exact .forgets hcalls
  | _ => exact .plain hcalls (fun _ h => absurd h List.not_mem_nil) trivial

theorem answers (hcalls : ∀ call ∈ calls, call.Routine) {content : Content}
    (hcontent : content.Plain) :
    WizardStep config trackingId data exchange calls (.result { content := content }) :=
  .plain hcalls (fun _ h => absurd h List.not_mem_nil) hcontent

theorem redirects (hcalls : ∀ call ∈ calls, call.Routine) (route : Route) :
    WizardStep config trackingId data exchange calls (.result (redirect route)) :=
  answers hcalls trivial

/-- Only a form that is let through leads to a disposal. -/
theorem letThrough_of_dispose_mem {response : Response}
    (h : WizardStep config trackingId data exchange calls response) {disposal : DisposeRequest}
    {trackingId' : String} {answer : Except Throwable (Answer DisposeResponse)}
    (hmem : .dispose disposal trackingId' answer ∈ calls) :
    ∃ disposeFormModel trader model,
      Dispose.LetThrough data exchange.request disposeFormModel trader model ∧
        Dispose.buildDisposeMicroServiceRequest exchange.environment
          (Dispose.disposeModelOf model disposeFormModel) trader = .ok disposal := by
  have hroutine : ∀ calls' : List ServiceCall, (∀ call ∈ calls', call.Routine) →
      .dispose disposal trackingId' answer ∉ calls' := fun calls' hcalls hc => hcalls _ hc
  cases h with
  | plain hcalls => exact absurd hmem (hroutine _ hcalls)
  | forgets hcalls => exact absurd hmem (hroutine _ hcalls)
  | locked hrequest hcalls => exact absurd hmem (hroutine _ hcalls)
  | finds hrequest hvalid hbefore | findsNothing hrequest hvalid hbefore
  | lookupFails hrequest hvalid hbefore =>
      rcases List.mem_append.mp hmem with hmem | hmem
      · exact absurd hmem (hroutine _ hbefore)
      · cases List.mem_singleton.mp hmem
  | disposed hrequest hvalid hopen htrader hmodel hbuild
  | disposeFails hrequest hvalid hopen htrader hmodel hbuild =>
      cases List.mem_singleton.mp hmem
      exact ⟨_, _, _, ⟨⟨_, hrequest, hvalid⟩, hopen, htrader, hmodel⟩, hbuild⟩
  | choosesAddress => cases List.mem_singleton.mp hmem
  | _ => exact absurd hmem List.not_mem_nil

theorem confirms_of_content {response : Response}
    (h : WizardStep config trackingId data exchange calls response) {view : DisposeViewModel}
    {form : Form DisposeFormModel} {today : DayMonthYear}
    (hcontent : response.content = .ok (.dispose view form today)) :
    Dispose.ShowsConfirmation data exchange.request form response := by
  cases h with
  | plain hcalls hedits hplain =>
      have hfalse : Content.Plain (.ok (.dispose view form today)) := by
        rw [← hcontent]
        exact hplain
      exact hfalse.elim
  | showsLookup htrader hurl hresult => rcases hresult with rfl | rfl <;> cases hcontent
  | @disposed form disposeFormModel trader model disposal status response =>
      cases hcontent.symm.trans (Dispose.storedResult_content exchange.environment
        (Dispose.disposeModelOf model disposeFormModel) disposeFormModel status response)
  | showsDispose hrequest htrader hopen hvehicle =>
      cases hcontent
      exact ⟨hrequest, by rw [htrader]; exact Option.some_ne_none _, hopen,
        by rw [hvehicle]; exact Option.some_ne_none _, rfl, fun _ => rfl⟩
  | _ => cases hcontent

end WizardStep

theorem ServiceCall.routine_nil : ∀ call ∈ ([] : List ServiceCall), call.Routine :=
  fun _ h => absurd h List.not_mem_nil

theorem ServiceCall.routine_addressesForPostcode (postcode trackingId : String) :
    ∀ call ∈ [addressesForPostcode postcode trackingId], call.Routine :=
  List.forall_mem_singleton.mpr trivial

theorem ServiceCall.routine_addressForUprn (uprn trackingId : String) :
    ∀ call ∈ [addressForUprn uprn trackingId], call.Routine :=
  List.forall_mem_singleton.mpr trivial

/-- The outcome of an action is a step of the wizard. -/
def Steps (outcome : Outcome Result) : Prop :=
  WizardStep config trackingId data exchange outcome.calls (settle (outcome.result.map .result))

section Actions

variable {config trackingId data exchange}

open RequestCookies (getModel_ofData hasCookie_ofData trackingId_ofData fill_ofData)
open ServiceCall (routine_nil routine_addressesForPostcode routine_addressForUprn)

theorem BusinessChooseYourAddress.present_steps :
    Steps config trackingId data exchange
      (present exchange.environment (.ofData trackingId data)) := by
  simp only [Steps, present, getModel_ofData, trackingId_ofData, fill_ofData, lift_ok_bind,
    fetchAddresses]
  cases data .setupTradeDetails with
  | none => exact .answers routine_nil trivial
  | some setup =>
      cases exchange.environment.fetchAddressesForPostcode with
      | error cause => exact .raises (routine_addressesForPostcode _ _) cause
      | ok addresses => exact .answers (routine_addressesForPostcode _ _) trivial

theorem BusinessChooseYourAddress.submit_steps {form : Form BusinessChooseYourAddressModel}
    (hrequest : exchange.request = .businessChooseYourAddressSubmit form) :
    Steps config trackingId data exchange
      (submit exchange.environment (.ofData trackingId data) form) := by
  simp only [Steps, submit, getModel_ofData, trackingId_ofData, lift_ok_bind, fetchAddresses,
    lookupUprn]
  cases hvalid : form.valid with
  | none =>
      cases data .setupTradeDetails with
      | none => exact .answers routine_nil trivial
      | some setup =>
          cases exchange.environment.fetchAddressesForPostcode with
          | error cause => exact .raises (routine_addressesForPostcode _ _) cause
          | ok addresses => exact .answers (routine_addressesForPostcode _ _) trivial
  | some model =>
      cases hsetup : data .setupTradeDetails with
      | none => exact .answers routine_nil trivial
      | some setup =>
          cases haddress : exchange.environment.fetchAddressForUprn with
          | error cause => exact .raises (routine_addressForUprn _ _) cause
          | ok address =>
              cases address with
              | none => exact .answers (routine_addressForUprn _ _) trivial
              | some address => exact .choosesAddress hrequest hvalid hsetup haddress

theorem EnterAddressManually.present_steps :
    Steps config trackingId data exchange (.ofExcept (present (.ofData trackingId data))) := by
  simp only [Steps, present, getModel_ofData, fill_ofData]
  cases data .setupTradeDetails with
  | none => exact .answers routine_nil trivial
  | some setup => exact .answers routine_nil trivial

theorem EnterAddressManually.submit_steps {form : Form EnterAddressManuallyModel}
    (hrequest : exchange.request = .enterAddressManuallySubmit form) :
    Steps config trackingId data exchange
      (.ofExcept (submit (.ofData trackingId data) form)) := by
  simp only [Steps, submit, getModel_ofData]
  cases hvalid : form.valid with
  | none =>
      cases data .setupTradeDetails with
      | none => exact .answers routine_nil trivial
      | some setup => exact .answers routine_nil trivial
  | some model =>
      cases hsetup : data .setupTradeDetails with
      | none => exact .answers routine_nil trivial
      | some setup => exact .entersAddress hrequest hvalid hsetup

theorem VehicleLookup.present_steps (hrequest : exchange.request = .vehicleLookupPresent) :
    Steps config trackingId data exchange
      (.ofExcept (present config exchange.environment (.ofData trackingId data))) := by
  simp only [Steps, present, getModel_ofData, fill_ofData, shouldDisplayExitButton,
    hasCookie_ofData]
  cases htrader : data .traderDetails with
  | none => exact .answers routine_nil trivial
  | some trader =>
      cases hurl : surveyUrl config (.ofData trackingId data) exchange.environment.dateService with
      | error cause => exact .raises routine_nil cause
      | ok url => exact .showsLookup htrader hurl (.inl rfl) (.inl hrequest)

theorem VehicleLookup.invalidSubmit_steps {form : Form VehicleLookupFormModel}
    (hrequest : exchange.request = .vehicleLookupSubmit form) (hvalid : form.valid = none) :
    Steps config trackingId data exchange
      (.ofExcept (invalidSubmit config exchange.environment (.ofData trackingId data) form)) := by
  simp only [Steps, invalidSubmit, getModel_ofData, shouldDisplayExitButton, hasCookie_ofData]
  cases htrader : data .traderDetails with
  | none => exact .answers routine_nil trivial
  | some trader =>
      cases hurl : surveyUrl config (.ofData trackingId data) exchange.environment.dateService with
      | error cause => exact .raises routine_nil cause
      | ok url => exact .showsLookup htrader hurl (.inr rfl) (.inr ⟨form, hrequest, hvalid⟩)

/-- What was looked up is a vehicle, nothing, or not said. -/
theorem VehicleLookup.lookupVehicleResult_steps {form : Form VehicleLookupFormModel}
    {model : VehicleLookupFormModel} (hrequest : exchange.request = .vehicleLookupSubmit form)
    (hvalid : form.valid = some model) (viewModel : BruteForcePreventionViewModel)
    {before : List ServiceCall} (hbefore : ∀ call ∈ before, call.Routine) :
    let outcome := lookupVehicleResult exchange.environment (.ofData trackingId data)
      (convertToUpperCaseAndRemoveSpaces model) viewModel
    ∃ r, outcome.result = .ok r ∧
      WizardStep config trackingId data exchange (before ++ outcome.calls) (.result r) := by
  simp only [lookupVehicleResult, getModel_ofData, trackingId_ofData, lift_ok_bind]
  cases vehicleLookupServiceInvoke exchange.environment.callVehicleLookupService with
  | error cause =>
      refine ⟨_, rfl, .answers ?_ trivial⟩
      intro call hc
      rcases List.mem_append.mp hc with hc | hc
      · exact hbefore call hc
      · rw [List.mem_singleton.mp hc]
        trivial
  | ok answer =>
      obtain ⟨status, response⟩ := answer
      refine ⟨_, rfl, ?_⟩
      rcases vehicleLookupSuccessResponse_cases status response with
        ⟨dto, hfound, hresult⟩ | ⟨hfound, hresult | ⟨responseCode, hresult⟩⟩
      · rw [hresult]
        exact .finds hrequest hvalid hbefore hfound
      · rw [hresult]
        exact .lookupFails hrequest hvalid hbefore hfound
      · rw [hresult]
        exact .findsNothing hrequest hvalid hbefore hfound

theorem VehicleLookup.submit_steps {form : Form VehicleLookupFormModel}
    (hrequest : exchange.request = .vehicleLookupSubmit form) :
    Steps config trackingId data exchange
      (submit config exchange.environment (.ofData trackingId data) form) := by
  rw [submit]
  cases hvalid : form.valid with
  | none => exact invalidSubmit_steps hrequest hvalid
  | some model =>
      obtain ⟨hbefore, -⟩ : (callBruteForce config exchange.environment
          (convertToUpperCaseAndRemoveSpaces model).registrationNumber).Spec
          ServiceCall.Routine _ := callBruteForce_spec _
      simp only [bruteForceAndLookup]
      generalize hcall : callBruteForce config exchange.environment
        (convertToUpperCaseAndRemoveSpaces model).registrationNumber = outcome at hbefore ⊢
      obtain ⟨before, result⟩ := outcome
      cases result with
      | error cause => exact .answers hbefore trivial
      | ok viewModel =>
          by_cases hpermitted : viewModel.permitted = true
          · obtain ⟨r, hr, hstep⟩ : ∃ r, _ = Except.ok r ∧
                WizardStep config trackingId data exchange (before ++ _) (.result r) :=
              lookupVehicleResult_steps hrequest hvalid viewModel hbefore
            simp only [Steps, bind, Effects.Outcome.bind, hpermitted, if_true, hr]
            exact hstep
          · simp only [Steps, bind, Effects.Outcome.bind, hpermitted, Bool.false_eq_true, if_false]
            rw [← List.append_nil before] at hbefore
            exact .locked hrequest hbefore

theorem VehicleLookup.back_steps :
    Steps config trackingId data exchange (.ofExcept (back (.ofData trackingId data))) := by
  simp only [Steps, back, getModel_ofData, bind, Except.bind]
  cases data .traderDetails with
  | none => exact .redirects routine_nil _
  | some trader =>
      simp only
      split
      · exact .redirects routine_nil _
      · exact .redirects routine_nil _

theorem VehicleLookupFailure.present_steps
    (hrequest : exchange.request = .vehicleLookupFailurePresent) :
    Steps config trackingId data exchange (.ofExcept (present (.ofData trackingId data))) := by
  simp only [Steps, present, getModel_ofData]
  cases data .traderDetails with
  | none => exact .redirects routine_nil _
  | some trader =>
      cases data .bruteForcePreventionViewModel with
      | none => exact .redirects routine_nil _
      | some viewModel =>
          cases data .vehicleLookupFormModel with
          | none => exact .redirects routine_nil _
          | some model =>
              cases data .vehicleLookupResponseCode with
              | none => exact .redirects routine_nil _
              | some responseCode => exact .showsLookupFailure hrequest

theorem VehicleLookupFailure.submit_steps :
    Steps config trackingId data exchange (.ofExcept (submit (.ofData trackingId data))) := by
  simp only [Steps, submit, getModel_ofData]
  cases data .traderDetails with
  | none => exact .redirects routine_nil _
  | some trader =>
      cases data .vehicleLookupFormModel with
      | none => exact .redirects routine_nil _
      | some model => exact .redirects routine_nil _

theorem VrmLocked.present_steps :
    Steps config trackingId data exchange (.ofExcept (present (.ofData trackingId data))) := by
  simp only [Steps, present, getModel_ofData]
  cases data .bruteForcePreventionViewModel with
  | none => exact .redirects routine_nil _
  | some viewModel => exact .answers routine_nil trivial

theorem VrmLocked.newDisposal_steps (hrequest : exchange.request = .vrmLockedNewDisposal) :
    Steps config trackingId data exchange (.ofExcept (newDisposal (.ofData trackingId data))) := by
  simp only [Steps, newDisposal, getModel_ofData]
  cases htrader : data .traderDetails with
  | none => exact .redirects routine_nil _
  | some trader =>
      exact .newDisposalAfterLock hrequest (by rw [htrader]; exact Option.some_ne_none trader)

theorem Dispose.present_steps (hrequest : exchange.request = .disposePresent) :
    Steps config trackingId data exchange
      (.ofExcept (present exchange.environment (.ofData trackingId data))) := by
  simp only [Steps, present, getModel_ofData, fill_ofData, RequestCookies.getString]
  cases hflag : data .preventGoingToDisposePage with
  | some flag =>
      have hbarred : data .preventGoingToDisposePage ≠ none := by
        rw [hflag]
        exact Option.some_ne_none flag
      cases data .traderDetails with
      | none => exact .reopens hrequest hbarred
      | some trader => exact .reopens hrequest hbarred
  | none =>
      cases htrader : data .traderDetails with
      | none => exact .redirects routine_nil _
      | some trader =>
          cases hvehicle : data .vehicleLookupDetails with
          | none => exact .redirects routine_nil _
          | some vehicle => exact .showsDispose hrequest htrader hflag hvehicle

theorem Dispose.invalidSubmit_steps (form : Form DisposeFormModel) :
    Steps config trackingId data exchange
      (.ofExcept (invalidSubmit exchange.environment (.ofData trackingId data) form)) := by
  simp only [Steps, invalidSubmit, getModel_ofData]
  cases data .traderDetails with
  | none => exact .redirects routine_nil _
  | some trader =>
      cases data .vehicleLookupDetails with
      | none => exact .redirects routine_nil _
      | some vehicle => exact .answers routine_nil trivial

/-- An answer of the service can always be stored, for want of a time that cannot be printed. -/
theorem Dispose.storeAnswer_eq (disposeModel : DisposeModel) (disposeFormModel : DisposeFormModel)
    (httpResponseCode : ℤ) (response : Option DisposeResponse) :
    storeAnswer environment disposeModel disposeFormModel httpResponseCode response =
      .ok (storedResult environment disposeModel disposeFormModel httpResponseCode response) := by
  obtain ⟨time, htime⟩ := Option.isSome_iff_exists.mp
    (DayMonthYear.isSome_toDateTime_today environment.dateServiceAfterCall.dateTimeNow)
  simp only [storeAnswer, transactionTimestamp, storedResult, timestamp, DateService.today, htime,
    Option.get_some]
  rfl

/-- A disposal that is built is sent, and what comes of it is stored. -/
theorem Dispose.callMicroService_eq {disposeModel : DisposeModel}
    {disposeFormModel : DisposeFormModel} {traderDetails : TraderDetailsModel}
    {disposal : DisposeRequest}
    (hbuild : buildDisposeMicroServiceRequest environment disposeModel traderDetails =
      .ok disposal) :
    callMicroService environment disposeModel disposeFormModel traderDetails trackingId =
      match disposeServiceInvoke environment.callDisposeService with
      | .ok (status, response) =>
          ⟨[.dispose disposal trackingId (.ok (status, response))],
            .ok (storedResult environment disposeModel disposeFormModel status response)⟩
      | .error cause =>
          ⟨[.dispose disposal trackingId (.error cause)], .ok (redirect .microServiceError)⟩ := by
  simp only [callMicroService, hbuild, lift_ok_bind]
  cases disposeServiceInvoke environment.callDisposeService with
  | error cause => rfl
  | ok answer =>
      simp only [call_ok_bind, storeAnswer_eq]
      rfl

theorem Dispose.callMicroService_of_error {disposeModel : DisposeModel}
    {disposeFormModel : DisposeFormModel} {traderDetails : TraderDetailsModel} {cause : Throwable}
    (hbuild : buildDisposeMicroServiceRequest environment disposeModel traderDetails =
      .error cause) :
    callMicroService environment disposeModel disposeFormModel traderDetails trackingId =
      ⟨[], .error cause⟩ := by
  simp only [callMicroService, hbuild, lift_error_bind]

theorem Dispose.submit_steps {form : Form DisposeFormModel}
    (hrequest : exchange.request = .disposeSubmit form) :
    Steps config trackingId data exchange
      (submit exchange.environment (.ofData trackingId data) form) := by
  simp only [Steps, submit, disposeAction, getModel_ofData, trackingId_ofData,
    RequestCookies.getString, lift_ok_bind]
  cases hvalid : form.valid with
  | none => exact invalidSubmit_steps form
  | some disposeFormModel =>
      cases hopen : data .preventGoingToDisposePage with
      | some flag => exact .redirects routine_nil _
      | none =>
          cases htrader : data .traderDetails with
          | none => exact .redirects routine_nil _
          | some trader =>
              cases hmodel : data .vehicleLookupFormModel with
              | none => exact .redirects routine_nil _
              | some model =>
                  cases hbuild : buildDisposeMicroServiceRequest exchange.environment
                      (disposeModelOf model disposeFormModel) trader with
                  | error cause =>
                      simp only [disposeModelOf] at hbuild
                      simp only [callMicroService_of_error hbuild]
                      exact .raises routine_nil cause
                  | ok disposal =>
                      have hcall : callMicroService exchange.environment
                          (disposeModelOf model disposeFormModel) disposeFormModel trader
                          trackingId = _ := callMicroService_eq hbuild
                      simp only [disposeModelOf] at hcall
                      simp only [hcall]
                      cases hanswer :
                        disposeServiceInvoke exchange.environment.callDisposeService with
                      | error cause =>
                          exact .disposeFails hrequest hvalid hopen htrader hmodel hbuild hanswer
                      | ok answer =>
                          exact .disposed hrequest hvalid hopen htrader hmodel hbuild hanswer

theorem DisposeFailure.present_steps (hrequest : exchange.request = .disposeFailurePresent) :
    Steps config trackingId data exchange (.ofExcept (present (.ofData trackingId data))) := by
  simp only [Steps, present, getModel_ofData, RequestCookies.getString]
  cases htrader : data .traderDetails with
  | none => exact .redirects routine_nil _
  | some trader =>
      cases hform : data .disposeFormModel with
      | none => exact .redirects routine_nil _
      | some disposeFormModel =>
          cases hvehicle : data .vehicleLookupDetails with
          | none => exact .redirects routine_nil _
          | some vehicle =>
              cases htransactionId : data .disposeFormTransactionId with
              | none => exact .redirects routine_nil _
              | some transactionId =>
                  exact .showsFailure hrequest htrader hform hvehicle htransactionId

theorem DisposeSuccess.present_steps (hrequest : exchange.request = .disposeSuccessPresent) :
    Steps config trackingId data exchange
      (.ofExcept (present config exchange.environment (.ofData trackingId data))) := by
  simp only [Steps, present, getModel_ofData, RequestCookies.getString]
  cases htrader : data .traderDetails with
  | none => exact .redirects routine_nil _
  | some trader =>
      cases hform : data .disposeFormModel with
      | none => exact .redirects routine_nil _
      | some disposeFormModel =>
          cases hvehicle : data .vehicleLookupDetails with
          | none => exact .redirects routine_nil _
          | some vehicle =>
              cases htransactionId : data .disposeFormTransactionId with
              | none => exact .redirects routine_nil _
              | some transactionId =>
                  cases hregistrationNumber : data .disposeFormRegistrationNumber with
                  | none => exact .redirects routine_nil _
                  | some registrationNumber =>
                      cases hurl : surveyUrl config (.ofData trackingId data)
                          exchange.environment.dateService with
                      | error cause => exact .raises routine_nil cause
                      | ok url =>
                          exact .showsSuccess hrequest htrader hform hvehicle htransactionId
                            hregistrationNumber hurl

theorem DisposeSuccess.newDisposal_steps
    (hrequest : exchange.request = .disposeSuccessNewDisposal) :
    Steps config trackingId data exchange (.ofExcept (newDisposal (.ofData trackingId data))) := by
  simp only [Steps, newDisposal, getModel_ofData]
  cases htrader : data .traderDetails with
  | none => exact .redirects routine_nil _
  | some trader =>
      cases hvehicle : data .vehicleLookupDetails with
      | none => exact .redirects routine_nil _
      | some vehicle =>
          exact .newDisposal hrequest (by rw [htrader]; exact Option.some_ne_none trader)
            (by rw [hvehicle]; exact Option.some_ne_none vehicle)

theorem Help.back_steps :
    Steps config trackingId data exchange (.ofExcept (back (.ofData trackingId data))) := by
  simp only [Steps, back, getModel_ofData, RequestCookies.getString]
  exact .answers routine_nil trivial

/-- Every request makes one of the steps. -/
theorem wizardStep :
    WizardStep config trackingId data exchange
      (handle config exchange.environment (.ofData trackingId data) exchange.request).calls
      (settle (handle config exchange.environment (.ofData trackingId data)
        exchange.request).result) := by
  cases hrequest : exchange.request with
  | beforeYouStartPresent => exact .startsOver hrequest
  | setUpTradeDetailsPresent =>
      simp only [handle, SetUpTradeDetails.present, fill_ofData]
      exact .answers routine_nil trivial
  | setUpTradeDetailsSubmit form =>
      simp only [handle, SetUpTradeDetails.submit]
      cases hvalid : form.valid with
      | none => exact .answers routine_nil trivial
      | some model => exact .entersTradeDetails hrequest hvalid
  | businessChooseYourAddressPresent => exact BusinessChooseYourAddress.present_steps
  | businessChooseYourAddressSubmit form => exact BusinessChooseYourAddress.submit_steps hrequest
  | enterAddressManuallyPresent => exact EnterAddressManually.present_steps
  | enterAddressManuallySubmit form => exact EnterAddressManually.submit_steps hrequest
  | vehicleLookupPresent => exact VehicleLookup.present_steps hrequest
  | vehicleLookupSubmit form => exact VehicleLookup.submit_steps hrequest
  | vehicleLookupExit => exact .exitsLookup hrequest
  | vehicleLookupBack => exact VehicleLookup.back_steps
  | disposePresent => exact Dispose.present_steps hrequest
  | disposeSubmit form => exact Dispose.submit_steps hrequest
  | disposeSuccessPresent => exact DisposeSuccess.present_steps hrequest
  | disposeSuccessNewDisposal => exact DisposeSuccess.newDisposal_steps hrequest
  | disposeSuccessExit => exact .exitsSuccess hrequest
  | disposeFailurePresent => exact DisposeFailure.present_steps hrequest
  | vehicleLookupFailurePresent => exact VehicleLookupFailure.present_steps hrequest
  | vehicleLookupFailureSubmit => exact VehicleLookupFailure.submit_steps
  | vrmLockedPresent => exact VrmLocked.present_steps
  | vrmLockedNewDisposal => exact VrmLocked.newDisposal_steps hrequest
  | vrmLockedExit => exact .exitsLock hrequest
  | errorSubmit exceptionDigest => exact .forgets routine_nil
  | helpPresent referer => exact .asksForHelp hrequest
  | helpBack => exact Help.back_steps
  | withLanguage code referer =>
      exact .plain routine_nil (List.forall_mem_singleton.mpr ⟨code, rfl⟩) trivial
  | index => exact .answers routine_nil trivial
  | beforeYouStartSubmit => exact .redirects routine_nil _
  | uprnNotFoundPresent => exact .answers routine_nil trivial
  | duplicateDisposalErrorPresent => exact .answers routine_nil trivial
  | microServiceErrorPresent => exact .answers routine_nil trivial
  | soapEndpointErrorPresent => exact .answers routine_nil trivial
  | errorPresent exceptionDigest => exact .answers routine_nil trivial

end Actions

end VehiclesOnline
