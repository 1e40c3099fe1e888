import VehiclesOnline.Wizard.Application

/-! What the actions of the wizard leave alone: the vehicle, unless they are about it, and
the difference between the kinds of sessions. -/

namespace VehiclesOnline

open Effects (Returns)

variable {joda : Joda} {config : Config} {environment : Environment joda}
variable {cookies : RequestCookies}

/-- What a result does to the data. -/
def Result.data (kind : SessionKind) (data : ApplicationData) (r : Result) : ApplicationData :=
  (Response.result r).data kind data

/-- The vehicle that was looked up, and whether the way to the dispose page is barred. -/
structure Untouched (data data' : ApplicationData) : Prop where
  vehicleLookupDetails : data' .vehicleLookupDetails = data .vehicleLookupDetails
  vehicleLookupFormModel : data' .vehicleLookupFormModel = data .vehicleLookupFormModel
  preventGoingToDisposePage : data' .preventGoingToDisposePage = data .preventGoingToDisposePage

def Forgotten (data : ApplicationData) : Prop :=
  data .vehicleLookupDetails = none ∧ data .vehicleLookupFormModel = none

/-- Leaves the vehicle alone, or forgets it. -/
def Result.Framed (r : Result) : Prop :=
  ∀ kind data, Untouched data (r.data kind data) ∨ Forgotten (r.data kind data)

/-- Means the same in sessions of both kinds. -/
def Result.Uniform (r : Result) : Prop := ∀ data, r.data .clearText data = r.data .encrypted data

structure Result.Routine (r : Result) : Prop where
  framed : r.Framed
  uniform : r.Uniform

/-- Neither looks a vehicle up with an answer nor disposes of one. -/
def ServiceCall.Routine : ServiceCall → Prop
  | vehicleLookup _ _ (.ok _) => False
  | dispose _ _ _ => False
  | _ => True

theorem Result.Routine.redirect (route : Route) : (Result.redirect route).Routine :=
  ⟨fun _ _ => .inl ⟨rfl, rfl, rfl⟩, fun _ => rfl⟩

theorem Result.Routine.ok (page : Page) : (Result.ok page).Routine :=
  ⟨fun _ _ => .inl ⟨rfl, rfl, rfl⟩, fun _ => rfl⟩

theorem Result.Routine.badRequest (page : Page) : (Result.badRequest page).Routine :=
  ⟨fun _ _ => .inl ⟨rfl, rfl, rfl⟩, fun _ => rfl⟩

/-! ### One lemma for each action -/

theorem BeforeYouStart.present_routine : BeforeYouStart.present.Routine :=
  ⟨fun _ _ => .inr ⟨rfl, rfl⟩, fun _ => rfl⟩

theorem SetUpTradeDetails.present_routine :
    Returns (SetUpTradeDetails.present cookies) Result.Routine :=
  Returns.bind' fun _ => Returns.pure (.ok _)

theorem SetUpTradeDetails.submit_routine (form : Form SetupTradeDetailsModel) :
    (SetUpTradeDetails.submit form).Routine := by
  rw [SetUpTradeDetails.submit]
  cases form.valid with
  | none => exact .badRequest _
  | some validForm => exact ⟨fun _ _ => .inl ⟨rfl, rfl, rfl⟩, fun _ => rfl⟩

theorem BusinessChooseYourAddress.fetchAddresses_spec (model : SetupTradeDetailsModel)
    (trackingId : String) :
    (BusinessChooseYourAddress.fetchAddresses environment model trackingId).Spec
      ServiceCall.Routine fun _ => True :=
  .call trivial (Returns.trivial _)

theorem BusinessChooseYourAddress.present_routine :
    (BusinessChooseYourAddress.present environment cookies).Spec ServiceCall.Routine
      Result.Routine := by
  refine .bind' (.lift (Returns.trivial _)) fun setupTradeDetailsModel => ?_
  cases setupTradeDetailsModel with
  | none => exact .pure (.redirect _)
  | some setupTradeDetailsModel =>
      refine .bind' (.lift (Returns.trivial _)) fun trackingId => ?_
      refine .bind' (fetchAddresses_spec setupTradeDetailsModel trackingId) fun addresses => ?_
      exact .bind' (.lift (Returns.trivial _)) fun form => .pure (.ok _)

theorem BusinessChooseYourAddress.lookupUprn_routine (model : BusinessChooseYourAddressModel)
    (traderName trackingId : String) :
    (BusinessChooseYourAddress.lookupUprn environment model traderName trackingId).Spec
      ServiceCall.Routine Result.Routine := by
  refine .bind' (.call trivial (Returns.trivial _)) fun addressViewModel => ?_
  cases addressViewModel with
  | none => exact .pure (.redirect _)
  | some addressViewModel => exact .pure ⟨fun _ _ => .inl ⟨rfl, rfl, rfl⟩, fun _ => rfl⟩

theorem BusinessChooseYourAddress.submit_routine (form : Form BusinessChooseYourAddressModel) :
    (BusinessChooseYourAddress.submit environment cookies form).Spec ServiceCall.Routine
      Result.Routine := by
  rw [BusinessChooseYourAddress.submit]
  cases form.valid with
  | none =>
      refine .bind' (.lift (Returns.trivial _)) fun setupTradeDetails => ?_
      cases setupTradeDetails with
      | none => exact .pure (.redirect _)
      | some setupTradeDetails =>
          refine .bind' (.lift (Returns.trivial _)) fun trackingId => ?_
          exact .bind' (fetchAddresses_spec setupTradeDetails trackingId) fun addresses =>
            .pure (.badRequest _)
  | some validForm =>
      refine .bind' (.lift (Returns.trivial _)) fun setupTradeDetailsModel => ?_
      cases setupTradeDetailsModel with
      | none => exact .pure (.redirect _)
      | some setupTradeDetailsModel =>
          exact .bind' (.lift (Returns.trivial _)) fun trackingId =>
            lookupUprn_routine validForm setupTradeDetailsModel.traderBusinessName trackingId

theorem EnterAddressManually.present_routine :
    Returns (EnterAddressManually.present cookies) Result.Routine := by
  refine Returns.bind' fun setupTradeDetails => ?_
  cases setupTradeDetails with
  | none => exact Returns.pure (.redirect _)
  | some setupTradeDetails => exact Returns.bind' fun form => Returns.pure (.ok _)

theorem EnterAddressManually.submit_routine (form : Form EnterAddressManuallyModel) :
    Returns (EnterAddressManually.submit cookies form) Result.Routine := by
  rw [EnterAddressManually.submit]
  cases form.valid with
  | none =>
      refine Returns.bind' fun setupTradeDetails => ?_
      cases setupTradeDetails with
      | none => exact Returns.pure (.redirect _)
      | some setupTradeDetails => exact Returns.pure (.badRequest _)
  | some validForm =>
      refine Returns.bind' fun setupTradeDetails => ?_
      cases setupTradeDetails with
      | none => exact Returns.pure (.redirect _)
      | some setupTradeDetails =>
          exact Returns.pure ⟨fun _ _ => .inl ⟨rfl, rfl, rfl⟩, fun _ => rfl⟩

theorem VehicleLookup.present_routine :
    Returns (VehicleLookup.present config environment cookies) Result.Routine := by
  refine Returns.bind' fun traderDetails => ?_
  cases traderDetails with
  | none => exact Returns.pure (.redirect _)
  | some traderDetails =>
      refine Returns.bind' fun form => Returns.bind' fun displayExitButton => ?_
      exact Returns.bind' fun surveyUrl => Returns.pure (.ok _)

theorem VehicleLookup.invalidSubmit_routine (form : Form VehicleLookupFormModel) :
    Returns (VehicleLookup.invalidSubmit config environment cookies form) Result.Routine := by
  refine Returns.bind' fun traderDetails => ?_
  cases traderDetails with
  | none => exact Returns.pure (.redirect _)
  | some traderDetails =>
      exact Returns.bind' fun displayExitButton => Returns.bind' fun surveyUrl =>
        Returns.pure (.badRequest _)

theorem VehicleLookup.exit_routine : (VehicleLookup.exit environment).Routine :=
  ⟨fun _ _ => .inr ⟨rfl, rfl⟩, fun _ => rfl⟩

theorem VehicleLookup.back_routine : Returns (VehicleLookup.back cookies) Result.Routine := by
  refine Returns.bind' fun dealerDetails => ?_
  cases dealerDetails with
  | none => exact Returns.pure (.redirect _)
  | some dealerDetails =>
      simp only
      split
      · exact Returns.pure (.redirect _)
      · exact Returns.pure (.redirect _)

/-- The action that shows the failure of a lookup leaves the vehicle alone. -/
theorem VehicleLookupFailure.present_framed :
    Returns (VehicleLookupFailure.present cookies) Result.Framed := by
  refine Returns.bind' fun traderDetails => Returns.bind' fun bruteForcePreventionResponse => ?_
  refine Returns.bind' fun vehicleLookUpFormModelDetails => ?_
  refine Returns.bind' fun vehicleLookupResponseCode => ?_
  split
  · apply Returns.pure
    intro kind data
    cases kind with
    | clearText => exact .inl ⟨rfl, rfl, rfl⟩
    | encrypted => exact .inl ⟨rfl, rfl, rfl⟩
  · exact Returns.pure (Result.Routine.redirect _).framed

theorem VehicleLookupFailure.submit_routine :
    Returns (VehicleLookupFailure.submit cookies) Result.Routine := by
  refine Returns.bind' fun traderDetails => Returns.bind' fun vehicleLookupFormModel => ?_
  split
  · exact Returns.pure (.redirect _)
  · exact Returns.pure (.redirect _)

theorem VrmLocked.present_routine : Returns (VrmLocked.present cookies) Result.Routine := by
  refine Returns.bind' fun viewModel => ?_
  cases viewModel with
  | none => exact Returns.pure (.redirect _)
  | some viewModel => exact Returns.pure (.ok _)

theorem VrmLocked.newDisposal_routine :
    Returns (VrmLocked.newDisposal cookies) Result.Routine := by
  refine Returns.bind' fun traderDetails => ?_
  cases traderDetails with
  | none => exact Returns.pure (.redirect _)
  | some traderDetails => exact Returns.pure ⟨fun _ _ => .inr ⟨rfl, rfl⟩, fun _ => rfl⟩

theorem VrmLocked.exit_routine : VrmLocked.exit.Routine :=
  ⟨fun _ _ => .inr ⟨rfl, rfl⟩, fun _ => rfl⟩

theorem DisposeFailure.present_routine :
    Returns (DisposeFailure.present cookies) Result.Routine := by
  refine Returns.bind' fun dealerDetails => Returns.bind' fun disposeFormModel => ?_
  refine Returns.bind' fun vehicleDetails => Returns.bind' fun transactionId => ?_
  split
  · exact Returns.pure (.ok _)
  · exact Returns.pure (.redirect _)

theorem DisposeSuccess.present_routine :
    Returns (DisposeSuccess.present config environment cookies) Result.Routine := by
  refine Returns.bind' fun traderDetails => Returns.bind' fun disposeFormModel => ?_
  refine Returns.bind' fun vehicleDetails => Returns.bind' fun transactionId => ?_
  refine Returns.bind' fun registrationNumber => ?_
  split
  · exact Returns.bind' fun surveyUrl =>
      Returns.pure ⟨fun _ _ => .inl ⟨rfl, rfl, rfl⟩, fun _ => rfl⟩
  · exact Returns.pure (.redirect _)

theorem DisposeSuccess.newDisposal_routine :
    Returns (DisposeSuccess.newDisposal cookies) Result.Routine := by
  refine Returns.bind' fun traderDetails => Returns.bind' fun vehicleDetails => ?_
  split
  · exact Returns.pure ⟨fun _ _ => .inr ⟨rfl, rfl⟩, fun _ => rfl⟩
  · exact Returns.pure (.redirect _)

theorem DisposeSuccess.exit_routine : (DisposeSuccess.exit environment).Routine :=
  ⟨fun _ _ => .inr ⟨rfl, rfl⟩, fun _ => rfl⟩

theorem Help.present_routine (referer : Option String) : (Help.present referer).Routine :=
  ⟨fun _ _ => .inl ⟨rfl, rfl, rfl⟩, fun _ => rfl⟩

theorem Help.back_routine : Returns (Help.back cookies) Result.Routine :=
  Returns.bind' fun _ => Returns.pure ⟨fun _ _ => .inl ⟨rfl, rfl, rfl⟩, fun _ => rfl⟩

/-! ### The routes -/

/-- The requests that look a vehicle up, show the dispose page or dispose of a vehicle, and
the one that shows why a lookup failed. -/
def Request.AboutVehicle : Request → Bool
  | vehicleLookupSubmit _ => true
  | disposePresent => true
  | disposeSubmit _ => true
  | vehicleLookupFailurePresent => true
  | _ => false

/-- A response whose result meets the condition. -/
def Response.Meets (P : Result → Prop) : Response → Prop
  | result r => P r
  | discardAllCookies => True

theorem returns_meets {result : Except Throwable Result} {P : Result → Prop}
    (h : Returns result P) : Returns (result.map .result) (Response.Meets P) :=
  Returns.map h

theorem action_spec {result : Except Throwable Result} {P : Result → Prop} (h : Returns result P) :
    (action result).Spec ServiceCall.Routine (Response.Meets P) :=
  .ofExcept (returns_meets h)

/-- Every other request is routine. -/
theorem handle_routine {request : Request} (h : request.AboutVehicle = false) :
    (handle config environment cookies request).Spec ServiceCall.Routine
      (Response.Meets Result.Routine) := by
  have hresult : ∀ {r : Result}, r.Routine →
      (action (.ok r)).Spec ServiceCall.Routine (Response.Meets Result.Routine) :=
    fun hr => action_spec (Returns.pure hr)
  have hunchanged : ∀ content, ({ content := content } : Result).Routine :=
    fun _ => ⟨fun _ _ => .inl ⟨rfl, rfl, rfl⟩, fun _ => rfl⟩
  cases request with
  | vehicleLookupSubmit form => cases h
  | disposePresent => cases h
  | disposeSubmit form => cases h
  | vehicleLookupFailurePresent => cases h
  | beforeYouStartPresent => exact hresult BeforeYouStart.present_routine
  | setUpTradeDetailsPresent => exact action_spec SetUpTradeDetails.present_routine
  | setUpTradeDetailsSubmit form => exact hresult (SetUpTradeDetails.submit_routine form)
  | businessChooseYourAddressPresent => exact .map BusinessChooseYourAddress.present_routine
  | businessChooseYourAddressSubmit form =>
      exact .map (BusinessChooseYourAddress.submit_routine form)
  | enterAddressManuallyPresent => exact action_spec EnterAddressManually.present_routine
  | enterAddressManuallySubmit form => exact action_spec (EnterAddressManually.submit_routine form)
  | vehicleLookupPresent => exact action_spec VehicleLookup.present_routine
  | vehicleLookupExit => exact hresult VehicleLookup.exit_routine
  | vehicleLookupBack => exact action_spec VehicleLookup.back_routine
  | disposeSuccessPresent => exact action_spec DisposeSuccess.present_routine
  | disposeSuccessNewDisposal => exact action_spec DisposeSuccess.newDisposal_routine
  | disposeSuccessExit => exact hresult DisposeSuccess.exit_routine
  | disposeFailurePresent => exact action_spec DisposeFailure.present_routine
  | vehicleLookupFailureSubmit => exact action_spec VehicleLookupFailure.submit_routine
  | vrmLockedPresent => exact action_spec VrmLocked.present_routine
  | vrmLockedNewDisposal => exact action_spec VrmLocked.newDisposal_routine
  | vrmLockedExit => exact hresult VrmLocked.exit_routine
  | errorSubmit exceptionDigest => exact .ofExcept (Returns.pure trivial)
  | helpPresent referer => exact hresult (Help.present_routine referer)
  | helpBack => exact action_spec Help.back_routine
  | withLanguage code referer =>
      exact hresult ⟨fun _ _ => .inl ⟨rfl, rfl, rfl⟩, fun _ => rfl⟩
  | index => exact hresult (hunchanged _)
  | beforeYouStartSubmit => exact hresult (hunchanged _)
  | uprnNotFoundPresent => exact hresult (hunchanged _)
  | duplicateDisposalErrorPresent => exact hresult (hunchanged _)
  | microServiceErrorPresent => exact hresult (hunchanged _)
  | soapEndpointErrorPresent => exact hresult (hunchanged _)
  | errorPresent exceptionDigest => exact hresult (hunchanged _)

end VehiclesOnline
