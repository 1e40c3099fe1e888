import VehiclesOnline.Wizard.Frames

/-! The vehicle of a session, from its lookup to its disposal: what a request can do to it,
and the calls of the services that come with it. -/

namespace VehiclesOnline

open Effects (Returns)
open Effects.Outcome (lift_ok_bind lift_error_bind call_ok_bind call_error_bind recover_error)

variable {joda : Joda} {config : Config} {environment : Environment joda}
variable {data : ApplicationData} {trackingId : String}

/-- The vehicle of an answer of the lookup service with no response code. -/
def foundVehicle : Answer VehicleDetailsResponse → Option VehicleDetailsDto
  | (status, some response) =>
      if status = 200 ∧ response.responseCode = none then response.vehicleDetailsDto else none
  | (_, none) => none

/-- What a request does to the vehicle of the session, with the calls that it leads to. -/
inductive VehicleStep (request : Request) (data : ApplicationData) :
    List ServiceCall → ApplicationData → Prop
  | untouched {calls : List ServiceCall} {data' : ApplicationData}
      (hcalls : ∀ call ∈ calls, call.Routine) (h : Untouched data data') :
      VehicleStep request data calls data'
  | forgotten {calls : List ServiceCall} {data' : ApplicationData}
      (hcalls : ∀ call ∈ calls, call.Routine) (h : Forgotten data') :
      VehicleStep request data calls data'
  | allowed {data' : ApplicationData} (hrequest : request = .disposePresent)
      (hbarred : data .preventGoingToDisposePage ≠ none)
      (hdetails : data' .vehicleLookupDetails = data .vehicleLookupDetails)
      (hform : data' .vehicleLookupFormModel = data .vehicleLookupFormModel) :
      VehicleStep request data [] data'
  | lookedUp {before : List ServiceCall} {lookup : VehicleDetailsRequest} {trackingId : String}
      {answer : Answer VehicleDetailsResponse} {data' : ApplicationData}
      (hbefore : ∀ call ∈ before, call.Routine)
      (hform : data' .vehicleLookupFormModel = some
        { referenceNumber := lookup.referenceNumber
          registrationNumber := lookup.registrationNumber })
      (hfound : ∀ dto, foundVehicle answer = some dto →
        data' .vehicleLookupDetails = some (VehicleDetailsModel.fromDto dto)) :
      VehicleStep request data (before ++ [.vehicleLookup lookup trackingId (.ok answer)]) data'
  | disposed {form : Form DisposeFormModel} {validForm : DisposeFormModel}
      {model : VehicleLookupFormModel} {disposal : DisposeRequest} {trackingId : String}
      {answer : Except Throwable (Answer DisposeResponse)} {data' : ApplicationData}
      (hrequest : request = .disposeSubmit form) (hvalid : form.valid = some validForm)
      (hopen : data .preventGoingToDisposePage = none) (htrader : data .traderDetails ≠ none)
      (hmodel : data .vehicleLookupFormModel = some model)
      (hreference : disposal.referenceNumber = model.referenceNumber)
      (hregistration : disposal.registrationNumber = model.registrationNumber)
      (hdetails : data' .vehicleLookupDetails = data .vehicleLookupDetails)
      (hform : data' .vehicleLookupFormModel = data .vehicleLookupFormModel)
      (hbarred : ∀ response, answer = .ok response → data' .preventGoingToDisposePage ≠ none) :
      VehicleStep request data [.dispose disposal trackingId answer] data'

/-! ### Requests that do not get to a vehicle -/

theorem settle_framed {result : Except Throwable Response}
    (h : Returns result (Response.Meets Result.Framed)) (kind : SessionKind)
    (data : ApplicationData) :
    Untouched data ((settle result).data kind data) ∨
      Forgotten ((settle result).data kind data) := by
  cases result with
  | error cause =>
      obtain ⟨exceptionClass, message⟩ := cause
      cases exceptionClass with
      | badPaddingException => exact .inr ⟨rfl, rfl⟩
      | invalidSessionException => exact .inr ⟨rfl, rfl⟩
      | _ => exact .inl ⟨rfl, rfl, rfl⟩
  | ok response =>
      cases response with
      | discardAllCookies => exact .inr ⟨rfl, rfl⟩
      | result r => exact h _ rfl kind data

/-- A step whose outcome leaves the vehicle alone. -/
theorem VehicleStep.of_framed {request : Request} {outcome : Outcome Response}
    (h : outcome.Spec ServiceCall.Routine (Response.Meets Result.Framed)) (kind : SessionKind) :
    VehicleStep request data outcome.calls ((settle outcome.result).data kind data) := by
  rcases settle_framed h.returns kind data with hdata | hdata
  · exact .untouched h.calls hdata
  · exact .forgotten h.calls hdata

theorem Response.Meets.mono {P Q : Result → Prop} (h : ∀ r, P r → Q r) {response : Response}
    (hresponse : response.Meets P) : response.Meets Q :=
  match response with
  | result r => h r hresponse
  | discardAllCookies => trivial

theorem VehicleStep.of_routine {request : Request} {outcome : Outcome Response}
    (h : outcome.Spec ServiceCall.Routine (Response.Meets Result.Routine)) (kind : SessionKind) :
    VehicleStep request data outcome.calls ((settle outcome.result).data kind data) :=
  .of_framed ⟨h.calls, h.returns.mono fun _ hr => hr.mono fun _ hroutine => hroutine.framed⟩ kind

/-! ### The lookup -/

namespace VehicleLookup

/-- The result of an answered lookup, before the form is stored. -/
theorem vehicleLookupSuccessResponse_cases (status : ℤ)
    (response : Option VehicleDetailsResponse) :
    (∃ dto, foundVehicle (status, response) = some dto ∧
      vehicleLookupSuccessResponse status response = vehicleFoundResult dto) ∨
    (foundVehicle (status, response) = none ∧
      (vehicleLookupSuccessResponse status response = Result.redirect .microServiceError ∨
        ∃ responseCode, vehicleLookupSuccessResponse status response =
          vehicleNotFoundResult responseCode)) := by
  cases response with
  | none => exact .inr ⟨rfl, .inl (ite_self _)⟩
  | some response =>
      obtain ⟨responseCode, dto⟩ := response
      by_cases hstatus : status = 200
      · cases responseCode with
        | some responseCode =>
            exact .inr ⟨by simp [foundVehicle], .inr ⟨responseCode, if_pos hstatus⟩⟩
        | none =>
            cases dto with
            | none => exact .inr ⟨by simp [foundVehicle], .inl (ite_self _)⟩
            | some dto => exact .inl ⟨dto, by simp [foundVehicle, hstatus], if_pos hstatus⟩
      · exact .inr ⟨by simp [foundVehicle, hstatus], .inl (if_neg hstatus)⟩

/-- The result of an answered lookup, with the form that was looked up. -/
def answeredResult (model : VehicleLookupFormModel)
    (bruteForcePreventionViewModel : BruteForcePreventionViewModel) (status : ℤ)
    (response : Option VehicleDetailsResponse) : Result :=
  ((vehicleLookupSuccessResponse status response).withCookie .vehicleLookupFormModel
    model).withCookie .bruteForcePreventionViewModel bruteForcePreventionViewModel

theorem answeredResult_spec (model : VehicleLookupFormModel)
    (viewModel : BruteForcePreventionViewModel) (status : ℤ)
    (response : Option VehicleDetailsResponse) (kind : SessionKind) (data : ApplicationData) :
    ((answeredResult model viewModel status response).data kind data) .vehicleLookupFormModel =
        some model ∧
      (∀ dto, foundVehicle (status, response) = some dto →
        ((answeredResult model viewModel status response).data kind data) .vehicleLookupDetails =
          some (VehicleDetailsModel.fromDto dto)) ∧
      (answeredResult model viewModel status response).Uniform := by
  rw [answeredResult]
  rcases vehicleLookupSuccessResponse_cases status response with
    ⟨dto, hfound, hresult⟩ | ⟨hfound, hresult | ⟨responseCode, hresult⟩⟩
  · rw [hresult, hfound]
    refine ⟨rfl, ?_, fun _ => rfl⟩
    rintro dto' ⟨⟩
    rfl
  · rw [hresult, hfound]
    refine ⟨rfl, ?_, fun _ => rfl⟩
    rintro dto ⟨⟩
  · rw [hresult, hfound]
    refine ⟨rfl, ?_, fun _ => rfl⟩
    rintro dto ⟨⟩

/-- The outcome of an action whose last call looked the form up, and was answered. -/
def AnswersLookup (outcome : Outcome Result) (trackingId : String)
    (model : VehicleLookupFormModel) : Prop :=
  ∃ before lookup viewModel status response,
    outcome = ⟨before ++ [.vehicleLookup lookup trackingId (.ok (status, response))],
      .ok (answeredResult model viewModel status response)⟩ ∧
    (∀ call ∈ before, ServiceCall.Routine call) ∧
    lookup.referenceNumber = model.referenceNumber ∧
    lookup.registrationNumber = model.registrationNumber

theorem lookupVehicleResult_cases (model : VehicleLookupFormModel)
    (viewModel : BruteForcePreventionViewModel) :
    (lookupVehicleResult environment (.ofData trackingId data) model viewModel).Spec
        ServiceCall.Routine Result.Routine ∨
      AnswersLookup (lookupVehicleResult environment (.ofData trackingId data) model viewModel)
        trackingId model := by
  simp only [lookupVehicleResult, RequestCookies.ofData, lift_ok_bind]
  cases vehicleLookupServiceInvoke environment.callVehicleLookupService with
  | error cause =>
      simp only [call_error_bind, recover_error]
      refine .inl ⟨?_, Returns.pure (.redirect _)⟩
      intro call hc
      rw [List.mem_singleton.mp hc]
      trivial
  | ok answer =>
      obtain ⟨status, response⟩ := answer
      exact .inr ⟨[], _, viewModel, status, response, rfl, by simp, rfl, rfl⟩

theorem callBruteForce_spec (vrm : String) :
    (callBruteForce config environment vrm).Spec ServiceCall.Routine fun viewModel =>
      isVrmLookupPermitted config environment.dateServiceAfterCall environment.callBruteForce =
        .ok viewModel where
  calls call hc := by
    rw [callBruteForce] at hc
    split at hc
    · rw [List.mem_singleton.mp hc]
      trivial
    · exact absurd hc List.not_mem_nil
  returns viewModel h := h

/-- A submission either ends before the lookup is answered, or with its answer. -/
theorem bruteForceAndLookup_cases (formModel : VehicleLookupFormModel) :
    (bruteForceAndLookup config environment (.ofData trackingId data) formModel).Spec
        ServiceCall.Routine Result.Routine ∨
      AnswersLookup (bruteForceAndLookup config environment (.ofData trackingId data) formModel)
        trackingId formModel := by
  have hbrute : (callBruteForce config environment formModel.registrationNumber).Spec
      ServiceCall.Routine _ := callBruteForce_spec formModel.registrationNumber
  cases hpermitted : isVrmLookupPermitted config environment.dateServiceAfterCall
    environment.callBruteForce with
  | error cause =>
      refine .inl (.recover (hbrute.bind fun viewModel hv => ?_) fun _ => .redirect _)
      rw [hpermitted] at hv
      cases hv
  | ok viewModel =>
      have hoption : ∀ viewModel', isVrmLookupPermitted config environment.dateServiceAfterCall
          environment.callBruteForce = .ok viewModel' → viewModel' = viewModel :=
        fun viewModel' hv => Except.ok.inj (hv.symm.trans hpermitted)
      by_cases hp : viewModel.permitted = true
      · rcases lookupVehicleResult_cases formModel viewModel with
          hlookup | ⟨before, lookup, viewModel', status, response, hlookup, hbefore, hpair⟩
        · refine .inl (.recover (hbrute.bind fun viewModel' hv => ?_) fun _ => .redirect _)
          obtain rfl := hoption viewModel' hv
          rw [if_pos hp]
          exact hlookup
        · refine .inr ⟨(callBruteForce config environment formModel.registrationNumber).calls ++
            before, lookup, viewModel', status, response, ?_, ?_, hpair⟩
          · simp only [bruteForceAndLookup, callBruteForce, hpermitted, Bind.bind,
              Effects.Outcome.bind, hp, if_true, hlookup, Effects.Outcome.recover,
              List.append_assoc]
          · intro call hc
            rcases List.mem_append.mp hc with hc | hc
            · exact hbrute.calls call hc
            · exact hbefore call hc
      · refine .inl (.recover (hbrute.bind fun viewModel' hv => ?_) fun _ => .redirect _)
        obtain rfl := hoption viewModel' hv
        rw [if_neg hp]
        exact .pure ⟨fun _ _ => .inl ⟨rfl, rfl, rfl⟩, fun _ => rfl⟩

theorem submit_step (form : Form VehicleLookupFormModel) (kind : SessionKind) :
    let outcome := serviceAction (submit config environment (.ofData trackingId data) form)
    VehicleStep (.vehicleLookupSubmit form) data outcome.calls
      ((settle outcome.result).data kind data) := by
  intro outcome
  cases hvalid : form.valid with
  | none =>
      have houtcome : outcome = (Effects.Outcome.ofExcept (invalidSubmit config environment
          (.ofData trackingId data) form)).map .result := by
        simp only [outcome, serviceAction, submit, hvalid]
      rw [houtcome]
      exact .of_routine (.map (.ofExcept (invalidSubmit_routine form))) kind
  | some validForm =>
      have houtcome : outcome = (bruteForceAndLookup config environment (.ofData trackingId data)
          (convertToUpperCaseAndRemoveSpaces validForm)).map .result := by
        simp only [outcome, serviceAction, submit, hvalid]
      rw [houtcome]
      rcases bruteForceAndLookup_cases (convertToUpperCaseAndRemoveSpaces validForm) with
        hroutine | ⟨before, lookup, viewModel, status, response, heq, hbefore, hreference,
          hregistration⟩
      · exact .of_routine (.map hroutine) kind
      · obtain ⟨hform, hfound, -⟩ := answeredResult_spec
          (convertToUpperCaseAndRemoveSpaces validForm) viewModel status response kind data
        rw [heq]
        refine .lookedUp hbefore (hform.trans ?_) hfound
        rw [hreference, hregistration]

end VehicleLookup

/-! ### The dispose page and the disposal -/

namespace Dispose

/-- The page is shown, or the way back to it is opened. -/
theorem present_step (kind : SessionKind) :
    let outcome := action (present environment (.ofData trackingId data))
    VehicleStep .disposePresent data outcome.calls ((settle outcome.result).data kind data) := by
  intro outcome
  cases hbarred : data .preventGoingToDisposePage with
  | none =>
      refine .of_routine (action_spec ?_) kind
      refine Returns.bind' fun traderDetails => ?_
      refine Returns.bind (P := fun flag => flag = none) ?_ fun flag hflag => ?_
      · intro flag hflag
        simp only [RequestCookies.getString, RequestCookies.ofData, hbarred] at hflag
        exact (Except.ok.inj hflag).symm
      · subst hflag
        cases traderDetails with
        | none => exact Returns.pure (.redirect _)
        | some traderDetails =>
            refine Returns.bind' fun vehicleDetails => ?_
            cases vehicleDetails with
            | none => exact Returns.pure (.redirect _)
            | some vehicleDetails => exact Returns.bind' fun form => Returns.pure (.ok _)
  | some flag =>
      have hpresent : present environment (.ofData trackingId data) =
          .ok ((Result.redirect .vehicleLookup).discardingCookie .preventGoingToDisposePage) := by
        simp only [present, RequestCookies.ofData, RequestCookies.getString, hbarred, bind,
          Except.bind]
        cases data .traderDetails <;> rfl
      simp only [outcome, hpresent]
      exact .allowed rfl (by rw [hbarred]; exact Option.some_ne_none flag) rfl rfl

theorem invalidSubmit_routine (form : Form DisposeFormModel) (cookies : RequestCookies) :
    Returns (invalidSubmit environment cookies form) Result.Routine := by
  refine Returns.bind' fun traderDetails => Returns.bind' fun vehicleDetails => ?_
  split
  · exact Returns.pure (.badRequest _)
  · exact Returns.pure (.redirect _)

theorem buildDisposeMicroServiceRequest_fields {disposeModel : DisposeModel}
    {traderDetails : TraderDetailsModel} {disposal : DisposeRequest}
    (h : buildDisposeMicroServiceRequest environment disposeModel traderDetails = .ok disposal) :
    disposal.referenceNumber = disposeModel.referenceNumber ∧
      disposal.registrationNumber = disposeModel.registrationNumber := by
  have hfields : Returns (buildDisposeMicroServiceRequest environment disposeModel traderDetails)
      fun disposal => disposal.referenceNumber = disposeModel.referenceNumber ∧
        disposal.registrationNumber = disposeModel.registrationNumber := by
    refine Returns.bind' fun dateTime => Returns.bind' fun traderAddress => ?_
    refine Returns.bind' fun timestamp => Returns.bind' fun prConsent => ?_
    exact Returns.bind' fun keeperConsent => Returns.pure ⟨rfl, rfl⟩
  exact hfields disposal h

/-- A result that keeps the vehicle, and bars the way to the dispose page after an answer. -/
structure Stores (answer : Except Throwable (Answer DisposeResponse)) (r : Result) : Prop where
  uniform : r.Uniform
  vehicleLookupDetails : ∀ kind data,
    (r.data kind data) .vehicleLookupDetails = data .vehicleLookupDetails
  vehicleLookupFormModel : ∀ kind data,
    (r.data kind data) .vehicleLookupFormModel = data .vehicleLookupFormModel
  preventGoingToDisposePage : ∀ kind data response, answer = .ok response →
    (r.data kind data) .preventGoingToDisposePage ≠ none

/-- The outcome of an action that called the service about the pair. -/
def CallsService (outcome : Outcome Result)
    (trackingId referenceNumber registrationNumber : String) : Prop :=
  ∃ disposal answer r, outcome = ⟨[.dispose disposal trackingId answer], .ok r⟩ ∧
    disposal.referenceNumber = referenceNumber ∧
    disposal.registrationNumber = registrationNumber ∧ Stores answer r

/-- The time of the server can always be printed, so that an answer is always stored. -/
theorem storeAnswer_stores (disposeModel : DisposeModel) (disposeFormModel : DisposeFormModel)
    (httpResponseCode : ℤ) (response : Option DisposeResponse) :
    ∃ r, storeAnswer environment disposeModel disposeFormModel httpResponseCode response = .ok r ∧
      Stores (.ok (httpResponseCode, response)) r := by
  have htoday := DayMonthYear.isSome_toDateTime_today environment.dateServiceAfterCall.dateTimeNow
  obtain ⟨timestamp, htimestamp⟩ := Option.isSome_iff_exists.mp htoday
  refine ⟨((storeResponseInCache response
    (((Result.redirect (nextPage httpResponseCode response)).withCookie .disposeModel
      disposeModel).withCookie .disposeFormModel disposeFormModel)).withCookie
        .disposeFormTimestampId (joda.isoDateTime timestamp)).withCookie
          .preventGoingToDisposePage "", ?_, ?_⟩
  · simp only [storeAnswer, transactionTimestamp, DateService.today, htimestamp]
    rfl
  · have hflag := Option.some_ne_none ""
    cases response with
    | none => exact ⟨fun _ => rfl, fun _ _ => rfl, fun _ _ => rfl, fun _ _ _ _ => hflag⟩
    | some o =>
        simp only [storeResponseInCache]
        split <;> split <;>
          exact ⟨fun _ => rfl, fun _ _ => rfl, fun _ _ => rfl, fun _ _ _ _ => hflag⟩

theorem stores_error (cause : Throwable) : Stores (.error cause) (.redirect .microServiceError) :=
  ⟨fun _ => rfl, fun _ _ => rfl, fun _ _ => rfl, by rintro kind data response ⟨⟩⟩

/-- A disposal is sent to the service, unless it cannot be built. -/
theorem callMicroService_cases (disposeModel : DisposeModel) (disposeFormModel : DisposeFormModel)
    (traderDetails : TraderDetailsModel) :
    (callMicroService environment disposeModel disposeFormModel traderDetails trackingId).Spec
        ServiceCall.Routine Result.Routine ∨
      CallsService
        (callMicroService environment disposeModel disposeFormModel traderDetails trackingId)
        trackingId disposeModel.referenceNumber disposeModel.registrationNumber := by
  cases hbuild : buildDisposeMicroServiceRequest environment disposeModel traderDetails with
  | error cause =>
      left
      simp only [callMicroService, hbuild, lift_error_bind]
      exact .ofExcept (Returns.error cause)
  | ok disposal =>
      right
      obtain ⟨hreference, hregistration⟩ := buildDisposeMicroServiceRequest_fields hbuild
      cases hanswer : disposeServiceInvoke environment.callDisposeService with
      | error cause =>
          refine ⟨disposal, .error cause, _, ?_, hreference, hregistration, stores_error cause⟩
          simp only [callMicroService, hbuild, hanswer, lift_ok_bind, call_error_bind,
            recover_error]
      | ok answer =>
          obtain ⟨httpResponseCode, response⟩ := answer
          obtain ⟨r, hr, hstores⟩ : ∃ r, storeAnswer environment disposeModel disposeFormModel
              httpResponseCode response = .ok r ∧ _ :=
            storeAnswer_stores disposeModel disposeFormModel httpResponseCode response
          refine ⟨disposal, _, r, ?_, hreference, hregistration, hstores⟩
          simp only [callMicroService, hbuild, hanswer, lift_ok_bind, call_ok_bind, hr]
          rfl

/-- The service is called about the pair of the stored lookup form, or not at all. -/
theorem disposeAction_cases (disposeFormModel : DisposeFormModel) :
    (disposeAction environment (.ofData trackingId data) disposeFormModel trackingId).Spec
        ServiceCall.Routine Result.Routine ∨
      ∃ model, data .traderDetails ≠ none ∧ data .vehicleLookupFormModel = some model ∧
        CallsService (disposeAction environment (.ofData trackingId data) disposeFormModel
          trackingId) trackingId model.referenceNumber model.registrationNumber := by
  simp only [disposeAction, RequestCookies.ofData, lift_ok_bind]
  cases data .traderDetails with
  | none => exact .inl (.pure (.redirect _))
  | some traderDetails =>
      cases data .vehicleLookupFormModel with
      | none => exact .inl (.pure (.redirect _))
      | some model =>
          rcases callMicroService_cases
            { referenceNumber := model.referenceNumber
              registrationNumber := model.registrationNumber
              dateOfDisposal := disposeFormModel.dateOfDisposal
              consent := disposeFormModel.consent
              lossOfRegistrationConsent := disposeFormModel.lossOfRegistrationConsent
              mileage := disposeFormModel.mileage } disposeFormModel traderDetails with
            hroutine | hcalls
          · exact .inl hroutine
          · exact .inr ⟨model, Option.some_ne_none traderDetails, rfl, hcalls⟩

/-- A submission of the dispose form disposes of the vehicle of the stored lookup form. -/
theorem submit_step (form : Form DisposeFormModel) (kind : SessionKind) :
    let outcome := serviceAction (submit environment (.ofData trackingId data) form)
    VehicleStep (.disposeSubmit form) data outcome.calls
      ((settle outcome.result).data kind data) := by
  intro outcome
  cases hvalid : form.valid with
  | none =>
      have houtcome : outcome = (Effects.Outcome.ofExcept (invalidSubmit environment
          (.ofData trackingId data) form)).map .result := by
        simp only [outcome, serviceAction, submit, hvalid]
      rw [houtcome]
      exact .of_routine (.map (.ofExcept (invalidSubmit_routine form _))) kind
  | some validForm =>
      cases hopen : data .preventGoingToDisposePage with
      | some flag =>
          have houtcome : outcome = ⟨[], .ok (.result (Result.redirect .vehicleLookup))⟩ := by
            simp only [outcome, serviceAction, submit, hvalid, RequestCookies.ofData,
              RequestCookies.getString, hopen, lift_ok_bind]
            rfl
          rw [houtcome]
          exact .untouched (fun _ hc => absurd hc List.not_mem_nil) ⟨rfl, rfl, rfl⟩
      | none =>
          have houtcome : outcome = (disposeAction environment (.ofData trackingId data) validForm
              trackingId).map .result := by
            simp only [outcome, serviceAction, submit, hvalid, RequestCookies.ofData,
              RequestCookies.getString, hopen, lift_ok_bind]
          rw [houtcome]
          rcases disposeAction_cases validForm with hroutine |
            ⟨model, htrader, hmodel, disposal, answer, r, heq, hreference, hregistration, hstores⟩
          · exact .of_routine (.map hroutine) kind
          · rw [heq]
            exact .disposed rfl hvalid hopen htrader hmodel hreference hregistration
              (hstores.vehicleLookupDetails kind data) (hstores.vehicleLookupFormModel kind data)
              (hstores.preventGoingToDisposePage kind data)

end Dispose

/-! ### Every request -/

/-- What a request to the wizard does to the vehicle of the session. -/
theorem wizard_step (kind : SessionKind) (config : Config) (trackingId : String)
    (data : ApplicationData) (exchange : Exchange joda) :
    VehicleStep exchange.request data (wizard kind config trackingId data exchange).2.calls
      (wizard kind config trackingId data exchange).1 := by
  obtain ⟨request, environment, draw, random⟩ := exchange
  by_cases hrequest : request.AboutVehicle = true
  · cases request with
    | vehicleLookupSubmit form => exact VehicleLookup.submit_step form kind
    | disposePresent => exact Dispose.present_step kind
    | disposeSubmit form => exact Dispose.submit_step form kind
    | vehicleLookupFailurePresent =>
        exact .of_framed (action_spec VehicleLookupFailure.present_framed) kind
    | _ => cases hrequest
  · exact .of_routine (handle_routine (Bool.eq_false_iff.mpr hrequest)) kind

end VehiclesOnline
