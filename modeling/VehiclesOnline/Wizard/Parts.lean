import VehiclesOnline.Wizard.Disposal
import VehiclesOnline.Wizard.Steps

/-! # The parts of a session

What a step does to single parts of what the session holds: to the lookup, and to the answer of
the last disposal. -/

namespace VehiclesOnline

variable {joda : Joda}

/-! ### The lookup -/

/-- A lookup is stored as it was entered; it is removed together with its vehicle. -/
inductive LookupStep (data : ApplicationData) (request : Request) : ApplicationData → Prop
  | looksUp {form : Form VehicleLookupFormModel} {model : VehicleLookupFormModel}
      {data' : ApplicationData} (hrequest : request = .vehicleLookupSubmit form)
      (hvalid : form.valid = some model)
      (hmodel : data' .vehicleLookupFormModel =
        some (VehicleLookup.convertToUpperCaseAndRemoveSpaces model)) :
      LookupStep data request data'
  | keeps {data' : ApplicationData}
      (hmodel : data' .vehicleLookupFormModel = data .vehicleLookupFormModel)
      (hvehicle : data' .vehicleLookupDetails = data .vehicleLookupDetails) :
      LookupStep data request data'
  | forgets {data' : ApplicationData} (h : Forgotten data') : LookupStep data request data'

/-! ### The answer of a disposal -/

/-- A disposal is answered or fails; whatever else is done leaves what is kept of an answer, or
removes it. -/
inductive DisposalStep (data : ApplicationData) (request : Request) :
    List ServiceCall → ApplicationData → Prop
  | answered {form : Form DisposeFormModel} {disposeFormModel : DisposeFormModel}
      {disposal : DisposeRequest} {trackingId : String} {status : ℤ}
      {response : Option DisposeResponse} {data' : ApplicationData}
      (hrequest : request = .disposeSubmit form) (hvalid : form.valid = some disposeFormModel)
      (hstores : Dispose.StoresAnswer disposeFormModel response data data') :
      DisposalStep data request [.dispose disposal trackingId (.ok (status, response))] data'
  | fails {disposal : DisposeRequest} {trackingId : String} {cause : Throwable} :
      DisposalStep data request [.dispose disposal trackingId (.error cause)] data
  | others {calls : List ServiceCall} {data' : ApplicationData}
      (hcalls : ∀ call ∈ calls, ¬ call.Disposes)
      (hform : data' .disposeFormModel = data .disposeFormModel ∨ data' .disposeFormModel = none)
      (htransactionId : data' .disposeFormTransactionId = data .disposeFormTransactionId ∨
        data' .disposeFormTransactionId = none)
      (hregistrationNumber : data' .disposeFormRegistrationNumber =
        data .disposeFormRegistrationNumber ∨ data' .disposeFormRegistrationNumber = none) :
      DisposalStep data request calls data'

/-! ### Steps of every kind -/

namespace WizardStep

variable {config : Config} {trackingId : String} {data : ApplicationData}
variable {exchange : Exchange joda} {calls : List ServiceCall} {response : Response}

theorem lookupStep (h : WizardStep config trackingId data exchange calls response)
    (kind : SessionKind) : LookupStep data exchange.request (response.data kind data) := by
  cases h with
  | plain hcalls hedits =>
      rw [Result.data_of_withLang hedits]
      exact .keeps rfl rfl
  | finds hrequest hvalid | findsNothing hrequest hvalid | lookupFails hrequest hvalid =>
      exact .looksUp hrequest hvalid rfl
  | @disposed form disposeFormModel trader model disposal status response =>
      have hframe := (Dispose.storedResult_storesAnswer exchange.environment
        (Dispose.disposeModelOf model disposeFormModel) disposeFormModel status response kind
        data).others
      exact .keeps (hframe _ (by decide)) (hframe _ (by decide))
  | showsLookup htrader hurl hresult => rcases hresult with rfl | rfl <;> exact .keeps rfl rfl
  | showsLookupFailure =>
      cases kind with
      | clearText => exact .keeps rfl rfl
      | encrypted => exact .keeps rfl rfl
  | startsOver | forgets | exitsLookup | newDisposalAfterLock | exitsLock | newDisposal
  | exitsSuccess => exact .forgets ⟨rfl, rfl⟩
  | entersTradeDetails | choosesAddress | entersAddress | locked | reopens | disposeFails
  | asksForHelp | showsDispose | showsSuccess | showsFailure => exact .keeps rfl rfl

theorem disposalStep (h : WizardStep config trackingId data exchange calls response)
    (kind : SessionKind) :
    DisposalStep data exchange.request calls (response.data kind data) := by
  have hnil : ∀ call ∈ ([] : List ServiceCall), ¬ call.Disposes :=
    fun _ hc => absurd hc List.not_mem_nil
  have hlookup : ∀ (before : List ServiceCall) lookup answer, (∀ call ∈ before, call.Routine) →
      ∀ call ∈ before ++ [.vehicleLookup lookup trackingId (.ok answer)], ¬ call.Disposes := by
    intro before lookup answer hbefore call hc
    rcases List.mem_append.mp hc with hc | hc
    · exact not_disposes_of_routine hbefore call hc
    · rw [List.mem_singleton.mp hc]
      exact id
  cases h with
  | plain hcalls hedits =>
      rw [Result.data_of_withLang hedits]
      exact .others (not_disposes_of_routine hcalls) (.inl rfl) (.inl rfl) (.inl rfl)
  | forgets hcalls =>
      exact .others (not_disposes_of_routine hcalls) (.inr rfl) (.inr rfl) (.inr rfl)
  | @disposed form disposeFormModel trader model disposal status response hrequest hvalid =>
      exact .answered hrequest hvalid (Dispose.storedResult_storesAnswer exchange.environment
        (Dispose.disposeModelOf model disposeFormModel) disposeFormModel status response kind data)
  | disposeFails => exact .fails
  | choosesAddress =>
      exact .others (not_disposes_of_routine (ServiceCall.routine_addressForUprn _ _)) (.inl rfl)
        (.inl rfl) (.inl rfl)
  | locked hrequest hcalls =>
      exact .others (not_disposes_of_routine hcalls) (.inl rfl) (.inl rfl) (.inl rfl)
  | finds hrequest hvalid hbefore | findsNothing hrequest hvalid hbefore
  | lookupFails hrequest hvalid hbefore =>
      exact .others (hlookup _ _ _ hbefore) (.inl rfl) (.inl rfl) (.inl rfl)
  | showsLookup htrader hurl hresult =>
      rcases hresult with rfl | rfl <;> exact .others hnil (.inl rfl) (.inl rfl) (.inl rfl)
  | showsLookupFailure =>
      cases kind with
      | clearText => exact .others hnil (.inl rfl) (.inl rfl) (.inl rfl)
      | encrypted => exact .others hnil (.inl rfl) (.inl rfl) (.inl rfl)
  | startsOver | exitsLookup | newDisposalAfterLock | exitsLock | newDisposal | exitsSuccess
  | showsSuccess => exact .others hnil (.inr rfl) (.inr rfl) (.inr rfl)
  | entersTradeDetails | entersAddress | reopens | asksForHelp | showsDispose | showsFailure =>
      exact .others hnil (.inl rfl) (.inl rfl) (.inl rfl)

end WizardStep

end VehiclesOnline
