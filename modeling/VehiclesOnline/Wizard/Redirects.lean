import VehiclesOnline.Wizard.Frames
import VehiclesOnline.Wizard.Disposal

/-! # Redirects

The guards of the pages send the browser from page to page. Each page has a rank, which goes down
with every redirect, so that a browser that follows them is shown a page in the end. -/

namespace VehiclesOnline

open Effects (Returns)

variable {joda : Joda}

/-! ### Pages and their addresses -/

namespace Route

/-- How a page is requested, by a browser that came from elsewhere or not. -/
def request (referer : Option String) : Route → Request
  | index => .index
  | beforeYouStart => .beforeYouStartPresent
  | setUpTradeDetails => .setUpTradeDetailsPresent
  | businessChooseYourAddress => .businessChooseYourAddressPresent
  | enterAddressManually => .enterAddressManuallyPresent
  | vehicleLookup => .vehicleLookupPresent
  | vehicleLookupBack => .vehicleLookupBack
  | dispose => .disposePresent
  | disposeSuccess => .disposeSuccessPresent
  | disposeFailure => .disposeFailurePresent
  | vehicleLookupFailure => .vehicleLookupFailurePresent
  | uprnNotFound => .uprnNotFoundPresent
  | duplicateDisposalError => .duplicateDisposalErrorPresent
  | microServiceError => .microServiceErrorPresent
  | soapEndpointError => .soapEndpointErrorPresent
  | vrmLocked => .vrmLockedPresent
  | error exceptionDigest => .errorPresent exceptionDigest
  | help => .helpPresent referer

def path : Route → String
  | index => "/"
  | beforeYouStart => BeforeYouStart.url
  | setUpTradeDetails => "/disposal-of-vehicle/setup-trade-details"
  | businessChooseYourAddress => "/disposal-of-vehicle/business-choose-your-address"
  | enterAddressManually => "/disposal-of-vehicle/enter-address-manually"
  | vehicleLookup => "/disposal-of-vehicle/vehicle-lookup"
  | vehicleLookupBack => "/disposal-of-vehicle/vehicle-lookup-back"
  | dispose => "/disposal-of-vehicle/dispose"
  | disposeSuccess => "/disposal-of-vehicle/dispose-success"
  | disposeFailure => "/disposal-of-vehicle/dispose-failure"
  | vehicleLookupFailure => "/disposal-of-vehicle/vehicle-lookup-failure"
  | uprnNotFound => "/disposal-of-vehicle/uprn-not-found"
  | duplicateDisposalError => "/disposal-of-vehicle/duplicate-disposal-error"
  | microServiceError => "/disposal-of-vehicle/micro-service-error"
  | soapEndpointError => "/disposal-of-vehicle/soap-endpoint-error"
  | vrmLocked => "/disposal-of-vehicle/vrm-locked"
  | error exceptionDigest => "/disposal-of-vehicle/error/" ++ exceptionDigest
  | help => "/disposal-of-vehicle/help"

/-- The pages but those of errors. -/
def pages : List Route :=
  [index, beforeYouStart, setUpTradeDetails, businessChooseYourAddress, enterAddressManually,
    vehicleLookup, vehicleLookupBack, dispose, disposeSuccess, disposeFailure,
    vehicleLookupFailure, uprnNotFound, duplicateDisposalError, microServiceError,
    soapEndpointError, vrmLocked, help]

def ofPath (path : String) : Option Route :=
  match pages.find? fun route => route.path == path with
  | some route => some route
  | none =>
      let error := "/disposal-of-vehicle/error/".toList
      if error <+: path.toList then
        some (.error (String.ofList (path.toList.drop error.length)))
      else none

/-- The page at an address, which is a path or begins with the origin of the application. -/
def locate (origin url : String) : Option Route :=
  if url.toList.head? = some '/' then ofPath url
  else if origin.toList <+: url.toList then
    ofPath (String.ofList (url.toList.drop origin.toList.length))
  else none

/-- As many redirects as it takes from the page to one that is shown, at most. -/
def rank : Route → ℕ
  | index => 1
  | businessChooseYourAddress => 1
  | enterAddressManually => 1
  | vehicleLookup => 1
  | vehicleLookupBack => 2
  | dispose => 2
  | disposeSuccess => 2
  | disposeFailure => 1
  | vehicleLookupFailure => 1
  | vrmLocked => 2
  | _ => 0

theorem rank_le_two (route : Route) : route.rank ≤ 2 := by
  cases route <;> simp [rank]

theorem locate_start (origin : String) :
    locate origin BeforeYouStart.url = some .beforeYouStart := by
  rw [locate, if_pos (by decide)]
  decide

end Route

/-! ### One redirect -/

namespace Content

def Shown : Content → Prop
  | ok _ => True
  | _ => False

/-- The page that a redirect leads to. -/
def target (origin : String) : Content → Option Route
  | redirect route => some route
  | redirectTo url => Route.locate origin url
  | _ => none

/-- A page that is shown, or a redirect to one of a lower rank. -/
def Below (origin : String) (n : ℕ) (content : Content) : Prop :=
  content.Shown ∨ ∃ route, content.target origin = some route ∧ route.rank < n

theorem below_ok {origin : String} {n : ℕ} (page : Page) : (ok page).Below origin n := .inl trivial

theorem below_redirect {origin : String} {n : ℕ} {route : Route} (h : route.rank < n) :
    (redirect route).Below origin n :=
  .inr ⟨route, rfl, h⟩

theorem below_redirectTo {origin url : String} {n : ℕ} {route : Route}
    (hlocate : Route.locate origin url = some route) (h : route.rank < n) :
    (redirectTo url).Below origin n :=
  .inr ⟨route, hlocate, h⟩

end Content

open Content (below_ok below_redirect below_redirectTo)

section Actions

variable {config : Config} {environment : Environment joda} {cookies : RequestCookies}
variable {origin : String}

theorem BusinessChooseYourAddress.present_below :
    (BusinessChooseYourAddress.present environment cookies).Spec (fun _ => True)
      fun r => r.content.Below origin 1 := by
  refine .bind' (.lift (Returns.trivial _)) fun setupTradeDetailsModel => ?_
  cases setupTradeDetailsModel with
  | none => exact .pure (below_redirect Nat.one_pos)
  | some setupTradeDetailsModel =>
      refine .bind' (.lift (Returns.trivial _)) fun trackingId => ?_
      refine .bind' (.call trivial (Returns.trivial _)) fun addresses => ?_
      exact .bind' (.lift (Returns.trivial _)) fun form => .pure (below_ok _)

theorem EnterAddressManually.present_below :
    Returns (EnterAddressManually.present cookies) fun r => r.content.Below origin 1 := by
  refine Returns.bind' fun setupTradeDetails => ?_
  cases setupTradeDetails with
  | none => exact Returns.pure (below_redirect Nat.one_pos)
  | some setupTradeDetails => exact Returns.bind' fun form => Returns.pure (below_ok _)

theorem VehicleLookup.present_below :
    Returns (VehicleLookup.present config environment cookies) fun r =>
      r.content.Below origin 1 := by
  refine Returns.bind' fun traderDetails => ?_
  cases traderDetails with
  | none => exact Returns.pure (below_redirect Nat.one_pos)
  | some traderDetails =>
      refine Returns.bind' fun form => Returns.bind' fun displayExitButton => ?_
      exact Returns.bind' fun surveyUrl => Returns.pure (below_ok _)

/-- The page that the dealer came from may send the dealer on to the first one. -/
theorem VehicleLookup.back_below :
    Returns (VehicleLookup.back cookies) fun r => r.content.Below origin 2 := by
  refine Returns.bind' fun dealerDetails => ?_
  cases dealerDetails with
  | none => exact Returns.pure (below_redirect Nat.two_pos)
  | some dealerDetails =>
      simp only
      split
      · exact Returns.pure (below_redirect Nat.one_lt_two)
      · exact Returns.pure (below_redirect Nat.one_lt_two)

/-- The flag of a disposal is discarded on the way. -/
theorem Dispose.present_below :
    Returns (Dispose.present environment cookies) fun r =>
      r.content.Below origin 2 := by
  refine Returns.bind' fun traderDetails => Returns.bind' fun preventGoingToDisposePage => ?_
  split
  · refine Returns.bind' fun vehicleDetails => ?_
    cases vehicleDetails with
    | none => exact Returns.pure (below_redirect Nat.one_lt_two)
    | some vehicleDetails => exact Returns.bind' fun form => Returns.pure (below_ok _)
  · exact Returns.pure (below_redirect Nat.one_lt_two)
  · exact Returns.pure (below_redirect Nat.two_pos)

theorem DisposeSuccess.present_below :
    Returns (DisposeSuccess.present config environment cookies) fun r =>
      r.content.Below origin 2 := by
  refine Returns.bind' fun traderDetails => Returns.bind' fun disposeFormModel => ?_
  refine Returns.bind' fun vehicleDetails => Returns.bind' fun transactionId => ?_
  refine Returns.bind' fun registrationNumber => ?_
  split
  · exact Returns.bind' fun surveyUrl => Returns.pure (below_ok _)
  · exact Returns.pure (below_redirect Nat.one_lt_two)

theorem DisposeFailure.present_below :
    Returns (DisposeFailure.present cookies) fun r => r.content.Below origin 1 := by
  refine Returns.bind' fun dealerDetails => Returns.bind' fun disposeFormModel => ?_
  refine Returns.bind' fun vehicleDetails => Returns.bind' fun transactionId => ?_
  split
  · exact Returns.pure (below_ok _)
  · exact Returns.pure (below_redirect Nat.one_pos)

theorem VehicleLookupFailure.present_below :
    Returns (VehicleLookupFailure.present cookies) fun r => r.content.Below origin 1 := by
  refine Returns.bind' fun traderDetails => Returns.bind' fun bruteForcePreventionResponse => ?_
  refine Returns.bind' fun vehicleLookUpFormModelDetails => ?_
  refine Returns.bind' fun vehicleLookupResponseCode => ?_
  split
  · exact Returns.pure (below_ok _)
  · exact Returns.pure (below_redirect Nat.one_pos)

theorem VrmLocked.present_below :
    Returns (VrmLocked.present cookies) fun r => r.content.Below origin 2 := by
  refine Returns.bind' fun viewModel => ?_
  cases viewModel with
  | none => exact Returns.pure (below_redirect Nat.one_lt_two)
  | some viewModel => exact Returns.pure (below_ok _)

end Actions

/-- An action that raised redirects to a page that is always shown. -/
theorem settle_below {origin : String} {n : ℕ} {result : Except Throwable Response} (hn : 0 < n)
    (h : Returns result fun response => response.content.Below origin n) :
    (settle result).content.Below origin n := by
  cases result with
  | ok response => exact h response rfl
  | error cause =>
      obtain ⟨exceptionClass, message⟩ := cause
      cases exceptionClass <;> exact below_redirect hn

section Step

variable {kind : SessionKind} {config : Config} {trackingId : String} {data : ApplicationData}
variable {exchange : Exchange joda} {origin : String}

/-- Every page is shown, or redirects to one of a lower rank. -/
theorem wizard_below {route : Route} {referer : Option String}
    (hstart : Route.locate origin config.startUrl = some .beforeYouStart)
    (hrequest : exchange.request = route.request referer) :
    (wizard kind config trackingId data exchange).2.content.Below origin route.rank := by
  simp only [wizard, hrequest]
  cases route with
  | index => exact below_redirectTo hstart Nat.one_pos
  | businessChooseYourAddress =>
      exact settle_below Nat.one_pos (.map BusinessChooseYourAddress.present_below.returns)
  | enterAddressManually =>
      exact settle_below Nat.one_pos (.map EnterAddressManually.present_below)
  | vehicleLookup => exact settle_below Nat.one_pos (.map VehicleLookup.present_below)
  | vehicleLookupBack => exact settle_below Nat.two_pos (.map VehicleLookup.back_below)
  | dispose => exact settle_below Nat.two_pos (.map Dispose.present_below)
  | disposeSuccess => exact settle_below Nat.two_pos (.map DisposeSuccess.present_below)
  | disposeFailure => exact settle_below Nat.one_pos (.map DisposeFailure.present_below)
  | vehicleLookupFailure =>
      exact settle_below Nat.one_pos (.map VehicleLookupFailure.present_below)
  | vrmLocked => exact settle_below Nat.two_pos (.map VrmLocked.present_below)
  | setUpTradeDetails =>
      -- Nothing can be raised here, where a redirect to the page of an error would not be below.
      cases hform : data .setupTradeDetails with
      | none =>
          simp only [Route.request, handle, SetUpTradeDetails.present, RequestCookies.fill,
            RequestCookies.ofData, hform]
          exact below_ok _
      | some model =>
          simp only [Route.request, handle, SetUpTradeDetails.present, RequestCookies.fill,
            RequestCookies.ofData, hform]
          exact below_ok _
  | _ => exact below_ok _

theorem wizard_withLanguage {code url : String}
    (hrequest : exchange.request = .withLanguage code (some url)) :
    (wizard kind config trackingId data exchange).2.content = .redirectTo url := by
  rw [wizard, hrequest]
  rfl

end Step

/-! ### Redirects one after another -/

section Landing

variable (sessions : Sessions) (config : Config) (origin : String)

/-- A browser that sends the request, and follows the redirects with the cookies of each
response, is shown a page after so many of them at most, whatever the services answer. -/
def LandsWithin (joda : Joda) : ℕ → Jar → Request → Prop
  | 0, jar, request =>
      ∀ exchange : Exchange joda, sessions.Apart exchange.draw → exchange.request = request →
        (sessions.serve config jar exchange).2.content.Shown
  | n + 1, jar, request =>
      ∀ exchange : Exchange joda, sessions.Apart exchange.draw → exchange.request = request →
        (sessions.serve config jar exchange).2.content.Shown ∨
          ∃ route, (sessions.serve config jar exchange).2.content.target origin = some route ∧
            ∀ referer,
              LandsWithin joda n (sessions.serve config jar exchange).1 (route.request referer)

end Landing

section Landing

variable {sessions : Sessions} {config : Config} {origin : String} {jar : Jar}
variable {data : ApplicationData}

theorem serve_below (hstart : Route.locate origin config.startUrl = some .beforeYouStart)
    (hholds : Holds sessions jar data) {exchange : Exchange joda}
    (hapart : sessions.Apart exchange.draw) {route : Route} {referer : Option String}
    (hrequest : exchange.request = route.request referer) :
    (∃ data', Holds sessions (sessions.serve config jar exchange).1 data') ∧
      (sessions.serve config jar exchange).2.content.Below origin route.rank := by
  obtain ⟨trackingId, hholds', hreply⟩ := serve_simulates config hholds hapart
  refine ⟨⟨_, hholds'⟩, ?_⟩
  rw [hreply]
  exact wizard_below hstart hrequest

/-- By induction on the number of redirects, which is no less than the rank of the page. -/
theorem landsWithin_of_rank_le (hstart : Route.locate origin config.startUrl = some .beforeYouStart)
    {n : ℕ} (hholds : Holds sessions jar data) {route : Route} (hrank : route.rank ≤ n)
    (referer : Option String) :
    LandsWithin sessions config origin joda n jar (route.request referer) := by
  induction n generalizing jar data route referer with
  | zero =>
      intro exchange hapart hrequest
      obtain ⟨-, hshown | ⟨next, -, hlt⟩⟩ := serve_below hstart hholds hapart hrequest
      · exact hshown
      · omega
  | succ n ih =>
      intro exchange hapart hrequest
      obtain ⟨⟨data', hholds'⟩, hshown | ⟨next, htarget, hlt⟩⟩ :=
        serve_below hstart hholds hapart hrequest
      · exact .inl hshown
      · exact .inr ⟨next, htarget, fun referer => ih hholds' (by omega) referer⟩

theorem landsWithin_withLanguage
    (hstart : Route.locate origin config.startUrl = some .beforeYouStart)
    (hholds : Holds sessions jar data) {url : String} {route : Route}
    (hlocate : Route.locate origin url = some route) (code : String) :
    LandsWithin sessions config origin joda 3 jar (.withLanguage code (some url)) := by
  intro exchange hapart hrequest
  obtain ⟨trackingId, hholds', hreply⟩ := serve_simulates config hholds hapart
  have htarget : (sessions.serve config jar exchange).2.content.target origin = some route := by
    rw [hreply, wizard_withLanguage hrequest]
    exact hlocate
  exact .inr ⟨route, htarget, fun referer =>
    landsWithin_of_rank_le hstart hholds' route.rank_le_two referer⟩

theorem LandsWithin.next {n : ℕ} {request : Request}
    (h : LandsWithin sessions config origin joda (n + 1) jar request) (exchange : Exchange joda)
    (hapart : sessions.Apart exchange.draw) (hrequest : exchange.request = request)
    (route : Route) (hshown : ¬ (sessions.serve config jar exchange).2.content.Shown)
    (htarget : (sessions.serve config jar exchange).2.content.target origin = some route)
    (referer : Option String) :
    LandsWithin sessions config origin joda n (sessions.serve config jar exchange).1
      (route.request referer) := by
  obtain h | ⟨next, hnext, h⟩ := h exchange hapart hrequest
  · exact absurd h hshown
  · obtain rfl : next = route := Option.some.inj (hnext.symm.trans htarget)
    exact h referer

end Landing

/-- From every page a browser is shown a page after two redirects at most, and if the language
was switched on it, after three. -/
theorem redirects_terminate (sessions : Sessions) (config : Config) (origin : String)
    (hstart : Route.locate origin config.startUrl = some .beforeYouStart) (jar : Jar)
    (data : ApplicationData) (hholds : Holds sessions jar data) (route : Route) :
    (∀ referer, LandsWithin sessions config origin joda 2 jar (route.request referer)) ∧
      ∀ code url, Route.locate origin url = some route →
        LandsWithin sessions config origin joda 3 jar (.withLanguage code (some url)) :=
  ⟨landsWithin_of_rank_le hstart hholds route.rank_le_two,
    fun code _ hlocate => landsWithin_withLanguage hstart hholds hlocate code⟩

section Dealer

open Dealer

theorem redirects_terminate_vrmLocked :
    (∀ referer,
      LandsWithin (.clearText noCookieFlags) {} "http://localhost:9000" utc 2 ∅
        (Route.vrmLocked.request referer)) ∧
      ∀ code url, Route.locate "http://localhost:9000" url = some .vrmLocked →
        LandsWithin (.clearText noCookieFlags) {} "http://localhost:9000" utc 3 ∅
          (.withLanguage code (some url)) :=
  redirects_terminate (.clearText noCookieFlags) {} "http://localhost:9000" (Route.locate_start _) ∅
    _ (Holds.of_clean (fun _ _ => rfl) _) .vrmLocked

theorem serve_sends {jar : Jar} {data : ApplicationData}
    (hholds : Holds (.clearText noCookieFlags) jar data) (request : Request) :
    ∃ trackingId,
      Holds (.clearText noCookieFlags)
        ((Sessions.clearText noCookieFlags).serve {} jar (sends request found)).1
        (wizard .clearText {} trackingId data (sends request found)).1 ∧
      ((Sessions.clearText noCookieFlags).serve {} jar (sends request found)).2 =
        (wizard .clearText {} trackingId data (sends request found)).2 :=
  serve_simulates {} hholds trivial

/-- Whoever switches the language on a page of which the session has been lost is redirected
from the switch to the page, to the lookup and to the details of the trader. -/
theorem withLanguage_redirects_thrice :
    ¬ LandsWithin (.clearText noCookieFlags) {} "http://localhost:9000" utc 2 ∅
      (.withLanguage "cy" (some "http://localhost:9000/disposal-of-vehicle/vrm-locked")) := by
  intro h
  have hholds : Holds (.clearText noCookieFlags) ∅ fun _ => none := .of_clean (fun _ _ => rfl) _
  obtain ⟨switchId, hswitched, hswitch⟩ := serve_sends hholds
    (.withLanguage "cy" (some "http://localhost:9000/disposal-of-vehicle/vrm-locked"))
  obtain ⟨lockedId, hlooked, hlocked⟩ := serve_sends hswitched .vrmLockedPresent
  obtain ⟨lookupId, -, hlookup⟩ := serve_sends hlooked .vehicleLookupPresent
  have hafterSwitch := h.next (sends _ found) trivial rfl .vrmLocked (by rw [hswitch]; exact id)
    (by rw [hswitch]; rfl) none
  have hafterLocked := hafterSwitch.next (sends _ found) trivial rfl .vehicleLookup
    (by rw [hlocked]; exact id) (by rw [hlocked]; rfl) none
  have hshown := hafterLocked (sends _ found) trivial rfl
  rw [hlookup] at hshown
  exact hshown

end Dealer

end VehiclesOnline
