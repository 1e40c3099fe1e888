import VehiclesOnline.Wizard.Domain
import VehiclesOnline.Wizard.Steps

/-! # The outcome of a lookup

Whichever page a valid lookup redirects to, it is shown when the browser follows the redirect. -/

namespace VehiclesOnline

open Result (redirect)
open Effects.Outcome (lift_ok_bind mk_ok_bind mk_error_bind recover_ok recover_error)

variable {joda : Joda}

namespace VehicleLookup

/-! ### The results of a lookup -/

/-- How the page of an outcome is requested. -/
def outcomeRequest : Route → Option Request
  | .dispose => some .disposePresent
  | .vehicleLookupFailure => some .vehicleLookupFailurePresent
  | .vrmLocked => some .vrmLockedPresent
  | .microServiceError => some .microServiceErrorPresent
  | _ => none

/-- The vehicle that the lookup service found. -/
def vehicleFound (environment : Environment joda) : Option VehicleDetailsDto :=
  match vehicleLookupServiceInvoke environment.callVehicleLookupService with
  | .ok answer => foundVehicle answer
  | .error _ => none

/-- The view of a vehicle. -/
def IsAbout (view : DisposeViewModel) (dto : VehicleDetailsDto) : Prop :=
  view.registrationNumber = dto.registrationNumber ∧ view.vehicleMake = dto.vehicleMake ∧
    view.vehicleModel = dto.vehicleModel

/-- A response of status 200 with the page of an outcome, which for a vehicle that was found is
that of this vehicle. -/
def ShowsOutcome (found : Option VehicleDetailsDto) : Route → Content → Prop
  | .dispose, .ok (.dispose view _ _) => ∃ dto, found = some dto ∧ IsAbout view dto
  | .vehicleLookupFailure, .ok (.vehicleLookupFailure _ _ _ _) => True
  | .vrmLocked, .ok (.vrmLocked _) => True
  | .microServiceError, .ok .microServiceError => True
  | _, _ => False

section Results

variable (config : Config) (environment : Environment joda) (data : ApplicationData)
variable (model : VehicleLookupFormModel) (trackingId : String)

/-- How a lookup ends. -/
inductive Ends : Result → Prop
  | failed : Ends (redirect .microServiceError)
  | locked (viewModel : BruteForcePreventionViewModel) : Ends (lockedResult viewModel)
  | answered (viewModel : BruteForcePreventionViewModel) {status : ℤ}
      {response : Option VehicleDetailsResponse}
      (h : vehicleLookupServiceInvoke environment.callVehicleLookupService =
        .ok (status, response)) : Ends (answeredResult model viewModel status response)

theorem lookupVehicleResult_ends (viewModel : BruteForcePreventionViewModel) :
    ∃ calls r, lookupVehicleResult environment (.ofData trackingId data) model viewModel =
      ⟨calls, .ok r⟩ ∧ Ends environment model r := by
  simp only [lookupVehicleResult, RequestCookies.trackingId_ofData, RequestCookies.getModel_ofData,
    lift_ok_bind]
  cases hanswer : vehicleLookupServiceInvoke environment.callVehicleLookupService with
  | error cause => exact ⟨_, _, rfl, .failed⟩
  | ok answer => exact ⟨_, _, rfl, .answered viewModel hanswer⟩

/-- Nothing is raised out of a lookup. -/
theorem bruteForceAndLookup_ends :
    ∃ calls r, bruteForceAndLookup config environment (.ofData trackingId data) model =
      ⟨calls, .ok r⟩ ∧ Ends environment model r := by
  rw [bruteForceAndLookup, callBruteForce]
  cases isVrmLookupPermitted config environment.dateServiceAfterCall
    environment.callBruteForce with
  | error cause => exact ⟨_, _, rfl, .failed⟩
  | ok viewModel =>
      rw [mk_ok_bind]
      by_cases hpermitted : viewModel.permitted = true
      · obtain ⟨calls, r, hlookup, hends⟩ :=
          lookupVehicleResult_ends environment data model trackingId viewModel
        simp only [if_pos hpermitted, hlookup, recover_ok]
        exact ⟨_, r, rfl, hends⟩
      · rw [if_neg hpermitted]
        exact ⟨_, _, rfl, .locked viewModel⟩

end Results

/-! ### The pages of the outcomes -/

section Pages

variable {kind : SessionKind} {config : Config} {trackingId : String} {data : ApplicationData}
variable {exchange : Exchange joda} {found : Option VehicleDetailsDto}

theorem showsOutcome_dispose (hrequest : exchange.request = .disposePresent)
    {trader : TraderDetailsModel} {dto : VehicleDetailsDto}
    (htrader : data .traderDetails = some trader) (hopen : data .preventGoingToDisposePage = none)
    (hvehicle : data .vehicleLookupDetails = some (VehicleDetailsModel.fromDto dto))
    (hfound : found = some dto) :
    ShowsOutcome found .dispose (wizard kind config trackingId data exchange).2.content := by
  simp only [wizard, hrequest, handle, action, Dispose.present, RequestCookies.getModel_ofData,
    RequestCookies.getString, RequestCookies.fill_ofData, htrader, hopen, hvehicle]
  exact ⟨dto, hfound, rfl, rfl, rfl⟩

theorem showsOutcome_vehicleLookupFailure
    (hrequest : exchange.request = .vehicleLookupFailurePresent)
    {trader : TraderDetailsModel} {viewModel : BruteForcePreventionViewModel}
    {model : VehicleLookupFormModel} {responseCode : String}
    (htrader : data .traderDetails = some trader)
    (hviewModel : data .bruteForcePreventionViewModel = some viewModel)
    (hmodel : data .vehicleLookupFormModel = some model)
    (hcode : data .vehicleLookupResponseCode = some responseCode) :
    ShowsOutcome found .vehicleLookupFailure
      (wizard kind config trackingId data exchange).2.content := by
  simp only [wizard, hrequest, handle, action, VehicleLookupFailure.present,
    RequestCookies.getModel_ofData, RequestCookies.getString, htrader, hviewModel, hmodel, hcode]
  trivial

theorem showsOutcome_vrmLocked (hrequest : exchange.request = .vrmLockedPresent)
    {viewModel : BruteForcePreventionViewModel}
    (hviewModel : data .bruteForcePreventionViewModel = some viewModel) :
    ShowsOutcome found .vrmLocked (wizard kind config trackingId data exchange).2.content := by
  simp only [wizard, hrequest, handle, action, VrmLocked.present, RequestCookies.getModel_ofData,
    hviewModel]
  trivial

theorem showsOutcome_microServiceError (hrequest : exchange.request = .microServiceErrorPresent) :
    ShowsOutcome found .microServiceError
      (wizard kind config trackingId data exchange).2.content := by
  simp only [wizard, hrequest, handle, action]
  trivial

end Pages

/-- A result that redirects to the page of an outcome, which the data that it leaves suffices to
show. -/
def Lands (kind : SessionKind) (config : Config) (environment : Environment joda)
    (data : ApplicationData) (r : Result) : Prop :=
  ∃ route request, r.content = .redirect route ∧ outcomeRequest route = some request ∧
    ∀ (trackingId : String) (exchange : Exchange joda), exchange.request = request →
      ShowsOutcome (vehicleFound environment) route
        (wizard kind config trackingId ((Response.result r).data kind data) exchange).2.content

section Lands

variable {kind : SessionKind} {config : Config} {environment : Environment joda}
variable {data : ApplicationData} {trader : TraderDetailsModel} {model : VehicleLookupFormModel}

theorem lands_answered (viewModel : BruteForcePreventionViewModel) {status : ℤ}
    {response : Option VehicleDetailsResponse}
    (h : vehicleLookupServiceInvoke environment.callVehicleLookupService = .ok (status, response))
    (htrader : data .traderDetails = some trader) :
    Lands kind config environment data (answeredResult model viewModel status response) := by
  rw [answeredResult]
  rcases vehicleLookupSuccessResponse_cases status response with
    ⟨dto, hfound, hresult⟩ | ⟨hfound, hresult | ⟨responseCode, hresult⟩⟩
  · have hvehicle : vehicleFound environment = some dto := by
      rw [vehicleFound, h]
      exact hfound
    rw [hresult]
    exact ⟨.dispose, .disposePresent, rfl, rfl, fun _ _ hrequest =>
      showsOutcome_dispose hrequest htrader rfl rfl hvehicle⟩
  · rw [hresult]
    exact ⟨.microServiceError, .microServiceErrorPresent, rfl, rfl, fun _ _ hrequest =>
      showsOutcome_microServiceError hrequest⟩
  · rw [hresult]
    exact ⟨.vehicleLookupFailure, .vehicleLookupFailurePresent, rfl, rfl, fun _ _ hrequest =>
      showsOutcome_vehicleLookupFailure hrequest htrader rfl rfl rfl⟩

/-- The flag of a disposal before and the vehicle of a lookup before do not stand in the way. -/
theorem Ends.lands {r : Result} (h : Ends environment model r)
    (htrader : data .traderDetails = some trader) : Lands kind config environment data r := by
  cases h with
  | failed =>
      exact ⟨.microServiceError, .microServiceErrorPresent, rfl, rfl, fun _ _ hrequest =>
        showsOutcome_microServiceError hrequest⟩
  | locked viewModel =>
      exact ⟨.vrmLocked, .vrmLockedPresent, rfl, rfl, fun _ _ hrequest =>
        showsOutcome_vrmLocked hrequest rfl⟩
  | answered viewModel hanswer => exact lands_answered viewModel hanswer htrader

end Lands

/-- In every session with the details of the trader, a valid lookup redirects to the page of its
outcome, which is shown to whoever follows, for a vehicle that was found with this vehicle. -/
theorem lookup_lands (sessions : Sessions) (config : Config) (jar : Jar) (data : ApplicationData)
    (hholds : Holds sessions jar data) (htrader : data .traderDetails ≠ none)
    (submits : Exchange joda) (hapart : sessions.Apart submits.draw)
    (form : Form VehicleLookupFormModel) (model : VehicleLookupFormModel)
    (hrequest : submits.request = .vehicleLookupSubmit form) (hvalid : form.valid = some model) :
    ∃ route request, (sessions.serve config jar submits).2.content = .redirect route ∧
      outcomeRequest route = some request ∧
      ∀ follows : Exchange joda, sessions.Apart follows.draw → follows.request = request →
        ShowsOutcome (vehicleFound submits.environment) route
          (sessions.serve config (sessions.serve config jar submits).1 follows).2.content := by
  obtain ⟨trader, htrader⟩ := Option.ne_none_iff_exists'.mp htrader
  obtain ⟨trackingId, hholds', hreply⟩ := serve_simulates config hholds hapart
  obtain ⟨calls, r, hlookup, hends⟩ := bruteForceAndLookup_ends config submits.environment data
    (convertToUpperCaseAndRemoveSpaces model) trackingId
  obtain ⟨route, request, hcontent, hroute, hshows⟩ : Lands sessions.kind config
    submits.environment data r := hends.lands htrader
  have houtcome : handle config submits.environment (.ofData trackingId data) submits.request =
      ⟨calls, .ok (.result r)⟩ := by
    rw [hrequest]
    simp only [handle, submit, hvalid, hlookup]
    rfl
  simp only [wizard, houtcome] at hholds' hreply
  refine ⟨route, request, ?_, hroute, ?_⟩
  · rw [hreply]
    exact hcontent
  · intro follows hapart' hrequest'
    obtain ⟨trackingId', -, hreply'⟩ := serve_simulates config hholds' hapart'
    rw [hreply']
    exact hshows trackingId' follows hrequest'

section Dealer

open Dealer Transition

theorem lookup_lands_dealer :
    ∃ route request,
      ((Sessions.clearText noCookieFlags).serve {}
        (final ((Sessions.clearText noCookieFlags).serve {}) ∅ entersDetails)
        (looksUp "1" "A1" found)).2.content = .redirect route ∧
      outcomeRequest route = some request ∧
      ∀ follows : Exchange utc, (Sessions.clearText noCookieFlags).Apart follows.draw →
        follows.request = request →
        ShowsOutcome (vehicleFound (services found)) route
          ((Sessions.clearText noCookieFlags).serve {}
            ((Sessions.clearText noCookieFlags).serve {}
              (final ((Sessions.clearText noCookieFlags).serve {}) ∅ entersDetails)
              (looksUp "1" "A1" found)).1 follows).2.content := by
  obtain ⟨trackingIds, hlength, hholds, -⟩ := run entersDetails
  obtain ⟨a, b, rfl⟩ := List.length_eq_two.mp hlength
  exact lookup_lands (.clearText noCookieFlags) {} _ _ hholds (Option.some_ne_none _)
    (looksUp "1" "A1" found) trivial _ _ rfl rfl

end Dealer

end VehicleLookup

end VehiclesOnline
