import VehiclesOnline.Library.Observation
import VehiclesOnline.Library.Utf16
import VehiclesOnline.Wizard.Disposal
import VehiclesOnline.Wizard.Registration

/-! # What a lookup leaves in the log

The controller and the services once more, with the messages that they log. -/

namespace VehiclesOnline

open Result (redirect)
open Effects.Outcome (emit recoverWith observe_bind observe_recoverWith lift_ok_bind)
open Effects.Outcome (SeenAlike emit_bind after_bind recoverWith_after)
open Utf16 (encode written)

/-! ## Messages -/

namespace LogFormats

def anonymousChar : Char := '*'

/-- The number of units at the end that are shown. -/
def startOfNonAnonymizedText (input : String) : ℕ :=
  if (encode input).length = 0 then 0
  else if (encode input).length > 8 then 4
  else (encode input).length / 2

/-- The text as the log writes it, where the cut may part a pair of surrogates. -/
def anonymize (input : String) : String :=
  String.ofList (List.replicate ((encode input).length - startOfNonAnonymizedText input)
    anonymousChar ++ written ((encode input).rtake (startOfNonAnonymizedText input)))

/-- Texts of one length that end alike, as far as their ends are shown. -/
structure EndAlike (input input' : String) : Prop where
  length : (encode input).length = (encode input').length
  shown : (encode input).rtake (startOfNonAnonymizedText input) =
    (encode input').rtake (startOfNonAnonymizedText input)

theorem EndAlike.anonymize_eq {input input' : String} (h : EndAlike input input') :
    anonymize input = anonymize input' := by
  have hstart : startOfNonAnonymizedText input = startOfNonAnonymizedText input' := by
    rw [startOfNonAnonymizedText, startOfNonAnonymizedText, h.length]
  rw [anonymize, anonymize, h.length, h.shown, hstart]

end LogFormats

inductive LogLevel
  | debug
  | warn
  | error
  deriving DecidableEq, Repr

structure LogMessage where
  level : LogLevel
  message : String
  cause : Option Throwable := none
  deriving DecidableEq, Repr

/-- What is done while a request is handled: a message is logged, or a service is called. -/
inductive Event
  | log (message : LogMessage)
  | call (service : ServiceCall)

namespace Event

def message? : Event → Option LogMessage
  | .log message => some message
  | .call _ => none

def call? : Event → Option ServiceCall
  | .log _ => none
  | .call service => some service

end Event

abbrev Logged := Effects.Outcome Event Throwable

/-- The texts that messages are made of besides those of the request: a part of the configuration,
how a template, a body and an exception are printed. -/
structure LogTexts where
  bruteForcePreventionMicroServiceBaseUrl : String
  enterAddressManualHtml : String
  bruteForceJson : String
  getStackTraceString : Throwable → String

namespace Logger

def log (message : LogMessage) : Logged Unit := emit (.log message)

def debug (message : String) : Logged Unit := log { level := .debug, message := message }

def warn (message : String) : Logged Unit := log { level := .warn, message := message }

def error (message : String) (cause : Option Throwable := none) : Logged Unit :=
  log { level := .error, message := message, cause := cause }

end Logger

/-- The messages of a computation. -/
def Logged.messages {α : Type} (logged : Logged α) : List LogMessage :=
  (logged.observe Event.message?).calls

/-- The computation without its messages. -/
def Logged.silent {α : Type} (logged : Logged α) : Outcome α := logged.observe Event.call?

namespace Logged

variable {joda : Joda} (texts : LogTexts) (config : Config) (environment : Environment joda)

/-! ## The brute force service -/

namespace BruteForcePrevention

def callBruteForceMessage (vrm : String) : String :=
  "Calling brute force prevention on " ++ texts.bruteForcePreventionMicroServiceBaseUrl ++
    "/security" ++ " with vrm: " ++ vrm

theorem callBruteForceMessage_inj {vrm vrm' : String}
    (h : callBruteForceMessage texts vrm = callBruteForceMessage texts vrm') : vrm = vrm' :=
  (String.append_right_inj _).mp h

/-- `WebServiceImpl.callBruteForce`. -/
def callBruteForce (vrm : String) : Logged (WebResponse BruteForcePreventionResponse) := do
  Logger.debug (callBruteForceMessage texts vrm)
  Effects.Outcome.call (.call (.bruteForce vrm)) environment.callBruteForce

/-- What the promise is completed with if the service answered 200. -/
def permitted (resp : WebResponse BruteForcePreventionResponse) :
    Logged (Except Throwable BruteForcePreventionViewModel) := do
  match ← resp.json with
  | some model =>
      return .ok (.fromResponse true model environment.dateServiceAfterCall
        config.bruteForcePreventionMaxAttemptsHeader)
  | none =>
      Logger.error ("Brute force prevention service returned invalid Json: " ++
        texts.bruteForceJson)
      return .error ⟨.runtimeException, some "TODO"⟩

def onResponse (resp : WebResponse BruteForcePreventionResponse) :
    Logged (Except Throwable BruteForcePreventionViewModel) :=
  if resp.status = 200 then permitted texts config environment resp
  else if resp.status = 403 then
    return .ok (.fromResponse false { attempts := 0 } environment.dateServiceAfterCall
      config.bruteForcePreventionMaxAttemptsHeader)
  else return .error ⟨.runtimeException, some "unknownPermission"⟩

/-- The promise is completed when the web service responds, or with what was thrown. -/
def returnedFuture (ws : Logged (WebResponse BruteForcePreventionResponse)) :
    Logged BruteForcePreventionViewModel := do
  let completion ← recoverWith
    (do onResponse texts config environment (← ws))
    fun e => do
      Logger.error ("Brute force prevention service throws: " ++ texts.getStackTraceString e)
      return .error e
  completion

/-- `BruteForcePreventionServiceImpl.isVrmLookupPermitted`. -/
def isVrmLookupPermitted (vrm : String) : Logged BruteForcePreventionViewModel :=
  if config.isBruteForcePreventionEnabled then
    returnedFuture texts config environment (callBruteForce texts environment vrm)
  else
    return .fromResponse true { attempts := 0 } environment.dateServiceAfterCall
      config.bruteForcePreventionMaxAttemptsHeader

end BruteForcePrevention

/-! ## The lookup service -/

namespace VehicleLookupService

/-- `VehicleLookupWebServiceImpl.callVehicleLookupService`. -/
def callVehicleLookupService (request : VehicleDetailsRequest) (trackingId : String) :
    Logged (WebResponse VehicleDetailsResponse) := do
  let vrm := LogFormats.anonymize request.registrationNumber
  let refNo := LogFormats.anonymize request.referenceNumber
  Logger.debug ("Calling vehicle lookup micro-service with request " ++ refNo ++ " " ++ vrm)
  Logger.debug ("Calling vehicle lookup micro-service with tracking id: " ++ trackingId)
  Effects.Outcome.call
    (.call (.vehicleLookup request trackingId
      (vehicleLookupServiceInvoke environment.callVehicleLookupService)))
    environment.callVehicleLookupService

def onResponse (resp : WebResponse VehicleDetailsResponse) :
    Logged (Answer VehicleDetailsResponse) := do
  Logger.debug ("Http response code from vehicle lookup micro-service was: " ++
    toString resp.status)
  if resp.status = 200 then return (resp.status, some (← resp.as))
  else return (resp.status, none)

/-- `VehicleLookupServiceImpl.invoke`. -/
def invoke (cmd : VehicleDetailsRequest) (trackingId : String) :
    Logged (Answer VehicleDetailsResponse) := do
  onResponse (← callVehicleLookupService environment cmd trackingId)

end VehicleLookupService

/-! ## The controller -/

namespace VehicleLookup

variable (cookies : RequestCookies)

def vehicleNotFoundResult (model : VehicleLookupFormModel) (responseCode : String) :
    Logged Result := do
  let registrationNumber := LogFormats.anonymize model.registrationNumber
  Logger.debug ("VehicleLookup encountered a problem with request " ++
    texts.enterAddressManualHtml ++ " " ++ registrationNumber ++
    ", redirect to VehicleLookupFailure")
  return (redirect .vehicleLookupFailure).withCookie .vehicleLookupResponseCode responseCode

def microServiceErrorResult (message : String) (cause : Option Throwable := none) :
    Logged Result := do
  Logger.error message cause
  return redirect .microServiceError

def createResultFromVehicleLookupResponse (model : VehicleLookupFormModel)
    (vehicleDetailsResponse : VehicleDetailsResponse) : Logged Result :=
  match vehicleDetailsResponse.responseCode with
  | some responseCode => vehicleNotFoundResult texts model responseCode
  | none =>
      match vehicleDetailsResponse.vehicleDetailsDto with
      | some dto => return VehiclesOnline.VehicleLookup.vehicleFoundResult dto
      | none => microServiceErrorResult "No vehicleDetailsDto found"

def vehicleLookupSuccessResponse (model : VehicleLookupFormModel)
    (responseStatusVehicleLookupMS : ℤ) (vehicleDetailsResponse : Option VehicleDetailsResponse) :
    Logged Result :=
  if responseStatusVehicleLookupMS = 200 then
    match vehicleDetailsResponse with
    | some response => createResultFromVehicleLookupResponse texts model response
    | none => microServiceErrorResult "No vehicleDetailsResponse found"
  else
    microServiceErrorResult ("VehicleLookup web service call http status not OK, it was: " ++
      toString responseStatusVehicleLookupMS ++
      ". Problem may come from either vehicle-lookup micro-service or the VSS")

def lookupVehicleResult (model : VehicleLookupFormModel)
    (bruteForcePreventionViewModel : BruteForcePreventionViewModel) : Logged Result := do
  let trackingId ← cookies.trackingId
  let traderDetails ← cookies.getModel .traderDetails
  let vehicleDetailsRequest : VehicleDetailsRequest :=
    { referenceNumber := model.referenceNumber
      registrationNumber := model.registrationNumber
      userName := traderDetails.elim "" TraderDetailsModel.traderName }
  recoverWith
    (do
      let (status, response) ←
        VehicleLookupService.invoke environment vehicleDetailsRequest trackingId
      let result ← vehicleLookupSuccessResponse texts model status response
      return (result.withCookie .vehicleLookupFormModel model).withCookie
        .bruteForcePreventionViewModel bruteForcePreventionViewModel)
    fun e => microServiceErrorResult "VehicleLookup Web service call failed." (some e)

/-- What is done once the brute force service has answered. -/
def whenPermitted (formModel : VehicleLookupFormModel)
    (bruteForcePreventionViewModel : BruteForcePreventionViewModel) : Logged Result :=
  if bruteForcePreventionViewModel.permitted then
    lookupVehicleResult texts environment cookies formModel bruteForcePreventionViewModel
  else do
    let registrationNumber := LogFormats.anonymize formModel.registrationNumber
    Logger.warn ("BruteForceService locked out vrm: " ++ registrationNumber)
    return (redirect .vrmLocked).withCookie .bruteForcePreventionViewModel
      bruteForcePreventionViewModel

def onException (exception : Throwable) : Logged Result := do
  Logger.error ("Exception thrown by BruteForceService so for safety we won't let anyone " ++
    "through. " ++ "Exception " ++ texts.getStackTraceString exception)
  return redirect .microServiceError

def bruteForceAndLookup (formModel : VehicleLookupFormModel) : Logged Result :=
  recoverWith
    (do
      let bruteForcePreventionViewModel ← BruteForcePrevention.isVrmLookupPermitted texts config
        environment formModel.registrationNumber
      whenPermitted texts environment cookies formModel bruteForcePreventionViewModel)
    (onException texts)

def submit (form : Form VehicleLookupFormModel) : Logged Result :=
  match form.valid with
  | none => .ofExcept (VehiclesOnline.VehicleLookup.invalidSubmit config environment cookies form)
  | some validForm =>
      bruteForceAndLookup texts config environment cookies
        (VehiclesOnline.VehicleLookup.convertToUpperCaseAndRemoveSpaces validForm)

end VehicleLookup

/-! ### Without the messages

The computations with messages are those that the wizard is made of. -/

section Silent

variable {texts config environment}

theorem silent_log_bind {α : Type} (message : LogMessage) (f : Unit → Logged α) :
    (Logger.log message >>= f).silent = (f ()).silent := rfl

theorem silent_bind {α β : Type} (logged : Logged α) (f : α → Logged β) :
    (logged >>= f).silent = logged.silent >>= fun a => (f a).silent :=
  observe_bind Event.call? logged f

theorem silent_recoverWith {α : Type} {f : Throwable → Logged α} {g : Throwable → α}
    (h : ∀ cause, (f cause).silent = pure (g cause)) (logged : Logged α) :
    Logged.silent (recoverWith logged f) = Effects.Outcome.recover logged.silent g :=
  observe_recoverWith Event.call? h logged

theorem BruteForcePrevention.silent_onResponse (henabled : config.isBruteForcePreventionEnabled)
    (resp : WebResponse BruteForcePreventionResponse) :
    ((onResponse texts config environment resp).silent >>= fun completion => liftM completion) =
      liftM (VehiclesOnline.isVrmLookupPermitted config environment.dateServiceAfterCall
        (.ok resp)) := by
  obtain ⟨status, json⟩ := resp
  rw [onResponse, VehiclesOnline.isVrmLookupPermitted, if_pos henabled]
  simp only [bind, Except.bind]
  split
  · cases json with
    | error cause => rfl
    | ok model =>
        cases model with
        | none => rfl
        | some model => rfl
  · split
    · rfl
    · rfl

/-- A call that fails is raised, like a response that cannot be read. -/
theorem BruteForcePrevention.bind_isVrmLookupPermitted
    (henabled : config.isBruteForcePreventionEnabled) (dateService : DateService joda)
    (callBruteForce : Except Throwable (WebResponse BruteForcePreventionResponse)) :
    (callBruteForce >>= fun resp =>
        VehiclesOnline.isVrmLookupPermitted config dateService (.ok resp)) =
      VehiclesOnline.isVrmLookupPermitted config dateService callBruteForce := by
  cases callBruteForce with
  | error cause =>
      rw [VehiclesOnline.isVrmLookupPermitted, if_pos henabled]
      rfl
  | ok resp => rfl

theorem BruteForcePrevention.silent_isVrmLookupPermitted (vrm : String) :
    (BruteForcePrevention.isVrmLookupPermitted texts config environment vrm).silent =
      VehiclesOnline.VehicleLookup.callBruteForce config environment vrm := by
  rw [isVrmLookupPermitted, VehiclesOnline.VehicleLookup.callBruteForce]
  cases henabled : config.isBruteForcePreventionEnabled with
  | false =>
      rw [VehiclesOnline.isVrmLookupPermitted, henabled]
      rfl
  | true =>
      let permitted := fun resp => VehiclesOnline.isVrmLookupPermitted config
        environment.dateServiceAfterCall (.ok resp)
      rw [if_pos rfl, returnedFuture, silent_bind, silent_recoverWith (g := .error) fun _ => rfl,
        silent_bind]
      calc Effects.Outcome.recover ((callBruteForce texts environment vrm).silent >>=
            fun resp => (onResponse texts config environment resp).silent) .error >>=
              (fun completion => liftM completion)
          = (callBruteForce texts environment vrm).silent >>=
              (fun resp => (onResponse texts config environment resp).silent) >>=
              fun completion => liftM completion := Effects.Outcome.recover_error_bind _
        _ = (callBruteForce texts environment vrm).silent >>= fun resp =>
              (onResponse texts config environment resp).silent >>=
                fun completion => liftM completion := Effects.Outcome.bind_bind _ _ _
        _ = Effects.Outcome.call (.bruteForce vrm) environment.callBruteForce >>=
              fun resp => liftM (permitted resp) :=
            congrArg _ (funext (silent_onResponse henabled))
        _ = Effects.Outcome.call (.bruteForce vrm) (environment.callBruteForce >>= permitted) :=
            Effects.Outcome.call_bind_lift _ _ _
        _ = ⟨[.bruteForce vrm], VehiclesOnline.isVrmLookupPermitted config
              environment.dateServiceAfterCall environment.callBruteForce⟩ :=
            congrArg _ (bind_isVrmLookupPermitted henabled _ _)

theorem VehicleLookupService.silent_onResponse (resp : WebResponse VehicleDetailsResponse) :
    (onResponse resp).silent = liftM (vehicleLookupServiceInvoke (.ok resp)) := by
  obtain ⟨status, json⟩ := resp
  rw [onResponse, Logger.debug, silent_log_bind]
  simp only [vehicleLookupServiceInvoke, bind, Except.bind]
  split
  · cases json with
    | error cause => rfl
    | ok body =>
        cases body with
        | none => rfl
        | some body => rfl
  · rfl

theorem VehicleLookupService.silent_invoke (cmd : VehicleDetailsRequest) (trackingId : String) :
    (VehicleLookupService.invoke environment cmd trackingId).silent =
      Effects.Outcome.call
        (.vehicleLookup cmd trackingId
          (vehicleLookupServiceInvoke environment.callVehicleLookupService))
        (vehicleLookupServiceInvoke environment.callVehicleLookupService) := by
  rw [invoke, silent_bind]
  calc (callVehicleLookupService environment cmd trackingId).silent >>=
        (fun resp => (onResponse resp).silent)
      = Effects.Outcome.call (.vehicleLookup cmd trackingId
          (vehicleLookupServiceInvoke environment.callVehicleLookupService))
          environment.callVehicleLookupService >>=
            fun resp => liftM (vehicleLookupServiceInvoke (.ok resp)) :=
        congrArg _ (funext silent_onResponse)
    _ = _ := Effects.Outcome.call_bind_lift _ _ _

namespace VehicleLookup

theorem silent_createResultFromVehicleLookupResponse (model : VehicleLookupFormModel)
    (response : VehicleDetailsResponse) :
    (createResultFromVehicleLookupResponse texts model response).silent =
      pure (VehiclesOnline.VehicleLookup.createResultFromVehicleLookupResponse response) := by
  obtain ⟨responseCode, vehicleDetailsDto⟩ := response
  cases responseCode with
  | some responseCode => rfl
  | none =>
      cases vehicleDetailsDto with
      | some dto => rfl
      | none => rfl

theorem silent_vehicleLookupSuccessResponse (model : VehicleLookupFormModel) (status : ℤ)
    (response : Option VehicleDetailsResponse) :
    (vehicleLookupSuccessResponse texts model status response).silent =
      pure (VehiclesOnline.VehicleLookup.vehicleLookupSuccessResponse status response) := by
  cases response with
  | none =>
      simp only [vehicleLookupSuccessResponse,
        VehiclesOnline.VehicleLookup.vehicleLookupSuccessResponse]
      split
      · rfl
      · rfl
  | some response =>
      simp only [vehicleLookupSuccessResponse,
        VehiclesOnline.VehicleLookup.vehicleLookupSuccessResponse]
      split
      · exact silent_createResultFromVehicleLookupResponse model response
      · rfl

variable {cookies : RequestCookies}

theorem silent_lookupVehicleResult (model : VehicleLookupFormModel)
    (viewModel : BruteForcePreventionViewModel) :
    (lookupVehicleResult texts environment cookies model viewModel).silent =
      VehiclesOnline.VehicleLookup.lookupVehicleResult environment cookies model viewModel := by
  rw [lookupVehicleResult, VehiclesOnline.VehicleLookup.lookupVehicleResult]
  cases cookies.trackingId with
  | error cause => rfl
  | ok trackingId =>
      cases cookies.getModel .traderDetails with
      | error cause => rfl
      | ok traderDetails =>
          rw [lift_ok_bind, lift_ok_bind, lift_ok_bind, lift_ok_bind,
            silent_recoverWith (g := fun _ => redirect .microServiceError) fun _ => rfl,
            silent_bind, VehicleLookupService.silent_invoke]
          refine congrArg (fun f => Effects.Outcome.recover (_ >>= f) _) (funext ?_)
          intro answer
          rw [silent_bind, silent_vehicleLookupSuccessResponse]
          rfl

theorem silent_whenPermitted (model : VehicleLookupFormModel)
    (viewModel : BruteForcePreventionViewModel) :
    (whenPermitted texts environment cookies model viewModel).silent =
      if viewModel.permitted then
        VehiclesOnline.VehicleLookup.lookupVehicleResult environment cookies model viewModel
      else
        return (redirect .vrmLocked).withCookie .bruteForcePreventionViewModel viewModel := by
  rw [whenPermitted]
  split
  · exact silent_lookupVehicleResult model viewModel
  · rfl

theorem silent_bruteForceAndLookup (model : VehicleLookupFormModel) :
    (bruteForceAndLookup texts config environment cookies model).silent =
      VehiclesOnline.VehicleLookup.bruteForceAndLookup config environment cookies model := by
  rw [bruteForceAndLookup, VehiclesOnline.VehicleLookup.bruteForceAndLookup,
    silent_recoverWith (g := fun _ => redirect .microServiceError) fun _ => rfl, silent_bind,
    BruteForcePrevention.silent_isVrmLookupPermitted]
  exact congrArg (fun f => Effects.Outcome.recover (_ >>= f) _)
    (funext (silent_whenPermitted model))

/-- Without its messages it is the submission of the wizard. -/
theorem silent_submit (form : Form VehicleLookupFormModel) :
    (submit texts config environment cookies form).silent =
      VehiclesOnline.VehicleLookup.submit config environment cookies form := by
  rw [submit, VehiclesOnline.VehicleLookup.submit]
  cases form.valid with
  | none => rfl
  | some model => exact silent_bruteForceAndLookup _

end VehicleLookup

end Silent

/-! ### The messages

Two lookups whose numbers look alike once they are anonymized log the same, except for the
message that announces the call of the brute force service. -/

namespace VehicleLookup

open VehiclesOnline.VehicleLookup (form convertToUpperCaseAndRemoveSpaces)

/-- Two models of which `anonymize` shows the same. -/
structure ShownAlike (model model' : VehicleLookupFormModel) : Prop where
  referenceNumber : model.referenceNumber = model'.referenceNumber
  registrationNumber : LogFormats.anonymize model.registrationNumber =
    LogFormats.anonymize model'.registrationNumber

/-- The lookup after the call of the brute force service was announced. -/
def announced (cookies : RequestCookies) (formModel : VehicleLookupFormModel) : Logged Result :=
  recoverWith
    (do
      let bruteForcePreventionViewModel ← BruteForcePrevention.returnedFuture texts config
        environment (Effects.Outcome.call (.call (.bruteForce formModel.registrationNumber))
          environment.callBruteForce)
      whenPermitted texts environment cookies formModel bruteForcePreventionViewModel)
    (onException texts)

variable {texts config environment} {cookies : RequestCookies}
variable {model model' : VehicleLookupFormModel}

theorem bruteForceAndLookup_eq (henabled : config.isBruteForcePreventionEnabled = true)
    (model : VehicleLookupFormModel) :
    bruteForceAndLookup texts config environment cookies model =
      (do
        Logger.debug
          (BruteForcePrevention.callBruteForceMessage texts model.registrationNumber)
        announced texts config environment cookies model) := by
  rw [bruteForceAndLookup, BruteForcePrevention.isVrmLookupPermitted, if_pos henabled,
    BruteForcePrevention.returnedFuture, BruteForcePrevention.callBruteForce, Logger.debug,
    Logger.log, emit_bind, emit_bind, after_bind, recoverWith_after, after_bind, after_bind,
    recoverWith_after]
  rfl

theorem ShownAlike.invoke (h : ShownAlike model model') (userName trackingId : String) :
    SeenAlike Event.message? Eq
      (VehicleLookupService.invoke environment
        ⟨model.referenceNumber, model.registrationNumber, userName⟩ trackingId)
      (VehicleLookupService.invoke environment
        ⟨model'.referenceNumber, model'.registrationNumber, userName⟩ trackingId) := by
  have hcall : SeenAlike Event.message? Eq
      (VehicleLookupService.callVehicleLookupService environment
        ⟨model.referenceNumber, model.registrationNumber, userName⟩ trackingId)
      (VehicleLookupService.callVehicleLookupService environment
        ⟨model'.referenceNumber, model'.registrationNumber, userName⟩ trackingId) := by
    simp only [VehicleLookupService.callVehicleLookupService, h.referenceNumber,
      h.registrationNumber]
    refine .bind (.emit rfl) fun _ _ _ => ?_
    exact .bind (.emit rfl) fun _ _ _ => .call (by rfl) _
  refine .bind hcall ?_
  rintro resp _ rfl
  exact .refl _

theorem ShownAlike.vehicleLookupSuccessResponse (h : ShownAlike model model') (status : ℤ)
    (response : Option VehicleDetailsResponse) :
    SeenAlike Event.message? Eq
      (VehicleLookup.vehicleLookupSuccessResponse texts model status response)
      (VehicleLookup.vehicleLookupSuccessResponse texts model' status response) := by
  have hnotFound : ∀ responseCode, vehicleNotFoundResult texts model responseCode =
      vehicleNotFoundResult texts model' responseCode := by
    intro responseCode
    rw [vehicleNotFoundResult, vehicleNotFoundResult, h.registrationNumber]
  have hcreate : ∀ response, createResultFromVehicleLookupResponse texts model response =
      createResultFromVehicleLookupResponse texts model' response := by
    intro response
    simp only [createResultFromVehicleLookupResponse, hnotFound]
  simp only [VehicleLookup.vehicleLookupSuccessResponse, hcreate]
  exact .refl _

/-- What is kept of the lookup is the model, which is not shown alike. -/
theorem ShownAlike.lookupVehicleResult (h : ShownAlike model model')
    (viewModel : BruteForcePreventionViewModel) :
    SeenAlike Event.message? (fun _ _ => True)
      (VehicleLookup.lookupVehicleResult texts environment cookies model viewModel)
      (VehicleLookup.lookupVehicleResult texts environment cookies model' viewModel) := by
  refine .bind (.lift _) ?_
  rintro trackingId _ rfl
  refine .bind (.lift _) ?_
  rintro traderDetails _ rfl
  refine .recoverWith (.bind (h.invoke _ _) ?_) fun cause =>
    .bind (.emit rfl) fun _ _ _ => .pure trivial
  rintro ⟨status, response⟩ _ rfl
  refine .bind (h.vehicleLookupSuccessResponse status response) ?_
  rintro r _ rfl
  exact .pure trivial

theorem ShownAlike.whenPermitted (h : ShownAlike model model')
    (viewModel : BruteForcePreventionViewModel) :
    SeenAlike Event.message? (fun _ _ => True)
      (VehicleLookup.whenPermitted texts environment cookies model viewModel)
      (VehicleLookup.whenPermitted texts environment cookies model' viewModel) := by
  rw [VehicleLookup.whenPermitted, VehicleLookup.whenPermitted, h.registrationNumber]
  split
  · exact h.lookupVehicleResult viewModel
  · exact .bind (.emit rfl) fun _ _ _ => .pure trivial

theorem ShownAlike.announced (h : ShownAlike model model') :
    SeenAlike Event.message? (fun _ _ => True)
      (VehicleLookup.announced texts config environment cookies model)
      (VehicleLookup.announced texts config environment cookies model') := by
  have hpermitted : SeenAlike Event.message? Eq
      (BruteForcePrevention.returnedFuture texts config environment
        (Effects.Outcome.call (.call (.bruteForce model.registrationNumber))
          environment.callBruteForce))
      (BruteForcePrevention.returnedFuture texts config environment
        (Effects.Outcome.call (.call (.bruteForce model'.registrationNumber))
          environment.callBruteForce)) := by
    refine .bind (.recoverWith (.bind (.call (by rfl) _) ?_) fun cause => .refl _) ?_
    · rintro resp _ rfl
      exact .refl _
    · rintro completion _ rfl
      exact .lift completion
  refine .recoverWith (.bind hpermitted ?_) fun cause =>
    .bind (.emit rfl) fun _ _ _ => .pure trivial
  rintro viewModel _ rfl
  exact h.whenPermitted viewModel

theorem messages_submit (henabled : config.isBruteForcePreventionEnabled = true)
    {form : Form VehicleLookupFormModel} (hvalid : form.valid = some model) :
    (submit texts config environment cookies form).messages =
      { level := .debug
        message := BruteForcePrevention.callBruteForceMessage texts
          (convertToUpperCaseAndRemoveSpaces model).registrationNumber } ::
        (announced texts config environment cookies
          (convertToUpperCaseAndRemoveSpaces model)).messages := by
  rw [submit, hvalid]
  simp only
  generalize convertToUpperCaseAndRemoveSpaces model = formModel
  rw [bruteForceAndLookup_eq henabled]
  rfl

variable {data data' : FormData}

/-- Two submissions whose numbers are shown alike log the same exactly if the numbers are the
same. -/
theorem messages_eq_iff (hvalid : (form.bindForm data).valid = some model)
    (hvalid' : (form.bindForm data').valid = some model')
    (hreference : model.referenceNumber = model'.referenceNumber)
    (hends : LogFormats.EndAlike (convertToUpperCaseAndRemoveSpaces model).registrationNumber
      (convertToUpperCaseAndRemoveSpaces model').registrationNumber)
    (henabled : config.isBruteForcePreventionEnabled = true) :
    (submit texts config environment cookies (form.bindForm data)).messages =
        (submit texts config environment cookies (form.bindForm data')).messages ↔
      (convertToUpperCaseAndRemoveSpaces model).registrationNumber =
        (convertToUpperCaseAndRemoveSpaces model').registrationNumber := by
  have halike : ShownAlike (convertToUpperCaseAndRemoveSpaces model)
      (convertToUpperCaseAndRemoveSpaces model') :=
    ⟨by simp only [convertToUpperCaseAndRemoveSpaces, hreference], hends.anonymize_eq⟩
  have hannounced : (announced texts config environment cookies
        (convertToUpperCaseAndRemoveSpaces model)).messages =
      (announced texts config environment cookies
        (convertToUpperCaseAndRemoveSpaces model')).messages := halike.announced.calls
  rw [messages_submit henabled hvalid, messages_submit henabled hvalid', hannounced]
  constructor
  · intro h
    have hmessage := congrArg LogMessage.message (List.cons.inj h).1
    exact BruteForcePrevention.callBruteForceMessage_inj texts hmessage
  · intro h
    rw [h]

section Dealer

open Dealer
open VehiclesOnline.VehicleLookup (someData someLookup)

def someTexts : LogTexts := ⟨"", "", "", fun _ => ""⟩

/-- The messages of the first request of a browser. -/
def messagesOf (registrationNumber : String) : List LogMessage :=
  (submit someTexts {} (services found)
    (.ofJar (Sessions.clearText noCookieFlags).factory (Jar.merge ∅ [langCookie]))
    (form.bindForm (someData registrationNumber))).messages

theorem valid_AB12CDE :
    (form.bindForm (someData "AB12CDE")).valid = some (someLookup "AB12CDE") := by
  decide +kernel

theorem valid_XY12CDE :
    (form.bindForm (someData "XY12CDE")).valid = some (someLookup "XY12CDE") := by
  decide +kernel

theorem registrationNumber_AB12CDE :
    (convertToUpperCaseAndRemoveSpaces (someLookup "AB12CDE")).registrationNumber = "AB12CDE" := by
  decide +kernel

theorem registrationNumber_XY12CDE :
    (convertToUpperCaseAndRemoveSpaces (someLookup "XY12CDE")).registrationNumber = "XY12CDE" := by
  decide +kernel

theorem endAlike_AB12CDE_XY12CDE :
    LogFormats.EndAlike
      (convertToUpperCaseAndRemoveSpaces (someLookup "AB12CDE")).registrationNumber
      (convertToUpperCaseAndRemoveSpaces (someLookup "XY12CDE")).registrationNumber := by
  rw [registrationNumber_AB12CDE, registrationNumber_XY12CDE]
  exact ⟨by decide, by decide⟩

theorem messages_eq_iff_AB12CDE_XY12CDE :
    messagesOf "AB12CDE" = messagesOf "XY12CDE" ↔
      (convertToUpperCaseAndRemoveSpaces (someLookup "AB12CDE")).registrationNumber =
        (convertToUpperCaseAndRemoveSpaces (someLookup "XY12CDE")).registrationNumber :=
  messages_eq_iff valid_AB12CDE valid_XY12CDE rfl endAlike_AB12CDE_XY12CDE rfl

/-- The log tells two numbers apart that end alike. -/
theorem whole_number_logged :
    (form.bindForm (someData "AB12CDE")).valid = some (someLookup "AB12CDE") ∧
      (form.bindForm (someData "XY12CDE")).valid = some (someLookup "XY12CDE") ∧
      LogFormats.EndAlike
        (convertToUpperCaseAndRemoveSpaces (someLookup "AB12CDE")).registrationNumber
        (convertToUpperCaseAndRemoveSpaces (someLookup "XY12CDE")).registrationNumber ∧
      messagesOf "AB12CDE" ≠ messagesOf "XY12CDE" := by
  refine ⟨valid_AB12CDE, valid_XY12CDE, endAlike_AB12CDE_XY12CDE, ?_⟩
  intro h
  rw [messagesOf, messagesOf, messages_submit rfl valid_AB12CDE,
    messages_submit rfl valid_XY12CDE, registrationNumber_AB12CDE,
    registrationNumber_XY12CDE] at h
  have hmessage := congrArg LogMessage.message (List.cons.inj h).1
  have hnumber := BruteForcePrevention.callBruteForceMessage_inj someTexts hmessage
  exact absurd hnumber (by decide)

end Dealer

end VehicleLookup

end Logged

end VehiclesOnline
