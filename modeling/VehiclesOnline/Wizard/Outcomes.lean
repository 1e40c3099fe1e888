import VehiclesOnline.Wizard.Domain
import VehiclesOnline.Wizard.Survey
import VehiclesOnline.Wizard.Transactions

/-! # The outcome of a disposal

Whether the page that a submission of the dispose form redirects to is shown when the browser
follows the redirect. -/

namespace VehiclesOnline

open Result (redirect)
open Effects.Outcome (lift_ok_bind)
open Transition (final)

variable {joda : Joda}

/-! ### The pages of the outcomes -/

namespace Dispose

/-- How the page of an outcome is requested. -/
def outcomeRequest : Route → Option Request
  | .disposeSuccess => some .disposeSuccessPresent
  | .disposeFailure => some .disposeFailurePresent
  | .duplicateDisposalError => some .duplicateDisposalErrorPresent
  | .soapEndpointError => some .soapEndpointErrorPresent
  | .microServiceError => some .microServiceErrorPresent
  | _ => none

/-- A response of status 200 with the page of an outcome. -/
def ShowsOutcome : Route → Content → Prop
  | .disposeSuccess, .ok (.disposeSuccess _ _ _) => True
  | .disposeFailure, .ok (.disposeFailure _ _) => True
  | .duplicateDisposalError, .ok .duplicateDisposalError => True
  | .soapEndpointError, .ok .soapEndpointError => True
  | .microServiceError, .ok .microServiceError => True
  | _, _ => False

/-- What the session has to hold for the page of an outcome. -/
def outcomeKeys : Route → List CacheKey
  | .disposeSuccess => DisposeSuccess.shownKeys
  | .disposeFailure => DisposeFailure.shownKeys
  | _ => []

/-- An identifier is in the response or in the session already. -/
def Identified (text : DisposeResponse → String) (response : Option DisposeResponse)
    (held : Option String) : Prop :=
  (∃ o, response = some o ∧ text o ≠ "") ∨ held ≠ none

/-- The form can be sent, and the session will hold the identifiers of the page that an answer
leads to. -/
structure Showable (environment : Environment joda) (data : ApplicationData)
    (disposeFormModel : DisposeFormModel) : Prop where
  convertible : ∃ trader, data .traderDetails = some trader ∧
    Convertible joda disposeFormModel trader
  transactionId : ∀ status response,
    disposeServiceInvoke environment.callDisposeService = .ok (status, response) →
    nextPage status response = .disposeSuccess ∨ nextPage status response = .disposeFailure →
    Identified DisposeResponse.transactionId response (data .disposeFormTransactionId)
  registrationNumber : ∀ status response,
    disposeServiceInvoke environment.callDisposeService = .ok (status, response) →
    nextPage status response = .disposeSuccess →
    Identified DisposeResponse.registrationNumber response (data .disposeFormRegistrationNumber)

end Dispose

section SeesOutcome

variable (sessions : Sessions) (config : Config) (jar : Jar) (submits : Exchange joda)

/-- The submission redirects to the page of an outcome, which is shown to whoever follows. -/
def SeesOutcome : Prop :=
  ∃ route request, (sessions.serve config jar submits).2.content = .redirect route ∧
    Dispose.outcomeRequest route = some request ∧
    ∀ follows : Exchange joda, sessions.Apart follows.draw → follows.request = request →
      Dispose.ShowsOutcome route
        (sessions.serve config (sessions.serve config jar submits).1 follows).2.content

end SeesOutcome

/-! ### What the pages need -/

section Pages

variable {kind : SessionKind} {config : Config} {trackingId : String} {data : ApplicationData}
variable {exchange : Exchange joda}

theorem DisposeSuccess.showsOutcome_iff (hrequest : exchange.request = .disposeSuccessPresent)
    {url : Option String} (hurl : surveyUrl config (.ofData trackingId data)
      exchange.environment.dateService = .ok url) :
    Dispose.ShowsOutcome .disposeSuccess
        (wizard kind config trackingId data exchange).2.content ↔ HoldsAll shownKeys data := by
  simp only [wizard, hrequest, handle, action, present, RequestCookies.getModel_ofData,
    RequestCookies.getString]
  cases htrader : data .traderDetails with
  | none => exact iff_of_false id fun h => h .traderDetails (by decide) htrader
  | some trader =>
      cases hform : data .disposeFormModel with
      | none => exact iff_of_false id fun h => h .disposeFormModel (by decide) hform
      | some disposeFormModel =>
          cases hvehicle : data .vehicleLookupDetails with
          | none => exact iff_of_false id fun h => h .vehicleLookupDetails (by decide) hvehicle
          | some vehicle =>
              cases hid : data .disposeFormTransactionId with
              | none => exact iff_of_false id fun h => h .disposeFormTransactionId (by decide) hid
              | some transactionId =>
                  cases hregistration : data .disposeFormRegistrationNumber with
                  | none =>
                      exact iff_of_false id fun h =>
                        h .disposeFormRegistrationNumber (by decide) hregistration
                  | some registrationNumber =>
                      simp only [hurl]
                      exact iff_of_true trivial (by simp [HoldsAll, shownKeys, *])

theorem DisposeFailure.showsOutcome_iff (hrequest : exchange.request = .disposeFailurePresent) :
    Dispose.ShowsOutcome .disposeFailure
        (wizard kind config trackingId data exchange).2.content ↔ HoldsAll shownKeys data := by
  simp only [wizard, hrequest, handle, action, present, RequestCookies.getModel_ofData,
    RequestCookies.getString]
  cases htrader : data .traderDetails with
  | none => exact iff_of_false id fun h => h .traderDetails (by decide) htrader
  | some trader =>
      cases hform : data .disposeFormModel with
      | none => exact iff_of_false id fun h => h .disposeFormModel (by decide) hform
      | some disposeFormModel =>
          cases hvehicle : data .vehicleLookupDetails with
          | none => exact iff_of_false id fun h => h .vehicleLookupDetails (by decide) hvehicle
          | some vehicle =>
              cases hid : data .disposeFormTransactionId with
              | none => exact iff_of_false id fun h => h .disposeFormTransactionId (by decide) hid
              | some transactionId =>
                  exact iff_of_true trivial (by simp [HoldsAll, shownKeys, *])

/-- The page of an outcome is shown if the session holds what it needs. -/
theorem Dispose.showsOutcome_iff {route : Route}
    (hrequest : outcomeRequest route = some exchange.request) {url : Option String}
    (hurl : surveyUrl config (.ofData trackingId data) exchange.environment.dateService = .ok url) :
    ShowsOutcome route (wizard kind config trackingId data exchange).2.content ↔
      HoldsAll (outcomeKeys route) data := by
  cases route with
  | disposeSuccess => exact DisposeSuccess.showsOutcome_iff (Option.some.inj hrequest).symm hurl
  | disposeFailure => exact DisposeFailure.showsOutcome_iff (Option.some.inj hrequest).symm
  | duplicateDisposalError | soapEndpointError | microServiceError =>
      rw [wizard, ← Option.some.inj hrequest]
      exact iff_of_true trivial fun _ h => absurd h List.not_mem_nil
  | _ => cases hrequest

end Pages

/-- In a session the page is shown to everyone who follows exactly if it holds what the page
needs. -/
theorem forall_showsOutcome_iff {sessions : Sessions} (config : Config) {jar : Jar}
    {data : ApplicationData} (hholds : Holds sessions jar data)
    (hdate : HoldsTriggerDate data) {route : Route} {request : Request}
    (hrequest : Dispose.outcomeRequest route = some request) {exchange : Exchange joda}
    (hapart : sessions.Apart exchange.draw) :
    (∀ follows : Exchange joda, sessions.Apart follows.draw → follows.request = request →
        Dispose.ShowsOutcome route (sessions.serve config jar follows).2.content) ↔
      HoldsAll (Dispose.outcomeKeys route) data := by
  have hfollows : ∀ follows : Exchange joda, sessions.Apart follows.draw →
      follows.request = request →
      (Dispose.ShowsOutcome route (sessions.serve config jar follows).2.content ↔
        HoldsAll (Dispose.outcomeKeys route) data) := by
    rintro follows hapart rfl
    obtain ⟨trackingId, -, hreply⟩ := serve_simulates config hholds hapart
    obtain ⟨url, hurl⟩ := hdate.exists_surveyUrl config trackingId follows.environment.dateService
    rw [hreply]
    exact Dispose.showsOutcome_iff hrequest hurl
  constructor
  · intro h
    exact (hfollows { exchange with request := request } hapart rfl).mp (h _ hapart rfl)
  · intro h follows hapart' hrequest'
    exact (hfollows follows hapart' hrequest').mpr h

/-! ### Submissions -/

namespace Dispose

section Submissions

variable {kind : SessionKind} {config : Config} {trackingId : String} {data : ApplicationData}
variable {exchange : Exchange joda} {disposeFormModel : DisposeFormModel}
variable {trader : TraderDetailsModel} {model : VehicleLookupFormModel}

/-- What a form that is let through comes to. -/
theorem handle_of_letThrough (h : LetThrough data exchange.request disposeFormModel trader model) :
    handle config exchange.environment (.ofData trackingId data) exchange.request =
      serviceAction (callMicroService exchange.environment (disposeModelOf model disposeFormModel)
        disposeFormModel trader trackingId) := by
  obtain ⟨form, hrequest, hvalid⟩ := h.submitted
  rw [hrequest]
  simp only [handle, submit, hvalid, RequestCookies.getString, RequestCookies.getModel_ofData,
    RequestCookies.trackingId_ofData, h.opened, lift_ok_bind, disposeAction, h.trader, h.lookup]
  rfl

theorem identified_iff {text : DisposeResponse → String} {response : Option DisposeResponse}
    {held : Option String} :
    (nonEmptyText text response).or held ≠ none ↔ Identified text response held := by
  rw [Identified]
  cases response with
  | none => simp [nonEmptyText]
  | some o =>
      by_cases hempty : text o = ""
      · simp [nonEmptyText_of_eq hempty, hempty]
      · simp [nonEmptyText_of_ne hempty, hempty]

/-- What the session has to hold after an answer. -/
theorem holdsAll_outcomeKeys_iff {response : Option DisposeResponse} {data' : ApplicationData}
    (hstores : StoresAnswer disposeFormModel response data data')
    (htrader : data .traderDetails ≠ none) (hvehicle : data .vehicleLookupDetails ≠ none)
    (route : Route) :
    HoldsAll (outcomeKeys route) data' ↔
      (route = .disposeSuccess ∨ route = .disposeFailure →
        Identified DisposeResponse.transactionId response (data .disposeFormTransactionId)) ∧
      (route = .disposeSuccess →
        Identified DisposeResponse.registrationNumber response
          (data .disposeFormRegistrationNumber)) := by
  have htrader' : data' .traderDetails ≠ none := by
    rwa [hstores.others .traderDetails (by decide)]
  have hvehicle' : data' .vehicleLookupDetails ≠ none := by
    rwa [hstores.others .vehicleLookupDetails (by decide)]
  have hform' : data' .disposeFormModel ≠ none := by
    rw [hstores.disposeFormModel]
    exact Option.some_ne_none _
  rw [← identified_iff, ← hstores.transactionId, ← identified_iff, ← hstores.registrationNumber]
  cases route with
  | disposeSuccess =>
      simp [HoldsAll, outcomeKeys, DisposeSuccess.shownKeys, htrader', hvehicle', hform']
  | disposeFailure =>
      simp [HoldsAll, outcomeKeys, DisposeFailure.shownKeys, htrader', hvehicle', hform']
  | _ => simp [HoldsAll, outcomeKeys]

theorem outcomeRequest_nextPage (status : ℤ) (response : Option DisposeResponse) :
    ∃ request, outcomeRequest (nextPage status response) = some request := by
  rw [nextPage]
  split
  · rw [handleResponseCode]
    split
    · exact ⟨_, rfl⟩
    · split <;> exact ⟨_, rfl⟩
  · rw [handleHttpStatusCode]
    split
    · exact ⟨_, rfl⟩
    · split <;> exact ⟨_, rfl⟩

/-- What raises does not redirect to the page of an outcome. -/
theorem outcomeRequest_of_errorResponse {cause : Throwable} {route : Route}
    (h : (errorResponse cause).content = .redirect route) : outcomeRequest route = none := by
  obtain ⟨exceptionClass, message⟩ := cause
  cases exceptionClass <;> cases h <;> rfl

end Submissions

/-- A submission that redirects to the page of an outcome shows it exactly if the session then
holds what the page needs. -/
theorem seesOutcome_iff_holdsAll {sessions : Sessions} {config : Config} {jar : Jar}
    {submits : Exchange joda} {route : Route} {request : Request} {data' : ApplicationData}
    (hcontent : (sessions.serve config jar submits).2.content = .redirect route)
    (hrequest : outcomeRequest route = some request)
    (hholds : Holds sessions (sessions.serve config jar submits).1 data')
    (hdate : HoldsTriggerDate data') (hapart : sessions.Apart submits.draw) :
    SeesOutcome sessions config jar submits ↔ HoldsAll (outcomeKeys route) data' := by
  rw [← forall_showsOutcome_iff config hholds hdate hrequest hapart]
  constructor
  · rintro ⟨route', request', hredirect, hrequest', hfollows⟩
    obtain rfl : route = route' := Content.redirect.inj (hcontent.symm.trans hredirect)
    obtain rfl : request = request' := Option.some.inj (hrequest.symm.trans hrequest')
    exact hfollows
  · intro hfollows
    exact ⟨route, request, hcontent, hrequest, hfollows⟩

section Showable

variable {environment : Environment joda} {data : ApplicationData}
variable {disposeFormModel : DisposeFormModel} {trader : TraderDetailsModel}

theorem showable_of_fails {cause : Throwable}
    (hanswer : disposeServiceInvoke environment.callDisposeService = .error cause)
    (htrader : data .traderDetails = some trader)
    (hconvertible : Convertible joda disposeFormModel trader) :
    Showable environment data disposeFormModel := by
  refine ⟨⟨trader, htrader, hconvertible⟩, ?_, ?_⟩
  · intro status response h
    cases hanswer.symm.trans h
  · intro status response h
    cases hanswer.symm.trans h

theorem showable_iff_of_answers {status : ℤ} {response : Option DisposeResponse}
    (hanswer : disposeServiceInvoke environment.callDisposeService = .ok (status, response))
    (htrader : data .traderDetails = some trader)
    (hconvertible : Convertible joda disposeFormModel trader) :
    Showable environment data disposeFormModel ↔
      (nextPage status response = .disposeSuccess ∨ nextPage status response = .disposeFailure →
        Identified DisposeResponse.transactionId response (data .disposeFormTransactionId)) ∧
      (nextPage status response = .disposeSuccess →
        Identified DisposeResponse.registrationNumber response
          (data .disposeFormRegistrationNumber)) := by
  constructor
  · intro hshowable
    exact ⟨hshowable.transactionId _ _ hanswer, hshowable.registrationNumber _ _ hanswer⟩
  · rintro ⟨htransactionId, hregistrationNumber⟩
    refine ⟨⟨trader, htrader, hconvertible⟩, ?_, ?_⟩
    · intro status' response' h
      cases hanswer.symm.trans h
      exact htransactionId
    · intro status' response' h
      cases hanswer.symm.trans h
      exact hregistrationNumber

end Showable

/-- A submission of a form that is let through shows its outcome exactly if it is showable. -/
theorem seesOutcome_iff_of_holds {sessions : Sessions} (config : Config) {jar : Jar}
    {data : ApplicationData} (hholds : Holds sessions jar data)
    (hdate : HoldsTriggerDate data) {submits : Exchange joda}
    (hapart : sessions.Apart submits.draw) {disposeFormModel : DisposeFormModel}
    {trader : TraderDetailsModel} {model : VehicleLookupFormModel}
    (hthrough : LetThrough data submits.request disposeFormModel trader model)
    (hvehicle : data .vehicleLookupDetails ≠ none) :
    SeesOutcome sessions config jar submits ↔
      Showable submits.environment data disposeFormModel := by
  obtain ⟨trackingId, hholds', hreply⟩ := serve_simulates config hholds hapart
  have hcontent := congrArg Reply.content hreply
  simp only [wizard, handle_of_letThrough hthrough, serviceAction] at hholds' hcontent
  cases hbuild : buildDisposeMicroServiceRequest submits.environment
      (disposeModelOf model disposeFormModel) trader with
  | error cause =>
      rw [callMicroService_of_error hbuild] at hcontent
      refine iff_of_false ?_ ?_
      · rintro ⟨route, request, hredirect, hrequest, -⟩
        cases (outcomeRequest_of_errorResponse (hcontent.symm.trans hredirect)).symm.trans hrequest
      · intro hshowable
        obtain ⟨trader', htrader', hconvertible⟩ := hshowable.convertible
        obtain rfl : trader = trader' := Option.some.inj (hthrough.trader.symm.trans htrader')
        obtain ⟨disposal, hdisposal⟩ := convertible_iff.mp hconvertible
        cases hbuild.symm.trans hdisposal
  | ok disposal =>
      have hconvertible : Convertible joda disposeFormModel trader :=
        convertible_iff.mpr ⟨disposal, hbuild⟩
      rw [callMicroService_eq hbuild] at hholds' hcontent
      cases hanswer : disposeServiceInvoke submits.environment.callDisposeService with
      | error cause =>
          simp only [hanswer] at hholds' hcontent
          have hsees : SeesOutcome sessions config jar submits ↔ HoldsAll [] data :=
            seesOutcome_iff_holdsAll hcontent rfl hholds' hdate hapart
          exact iff_of_true (hsees.mpr fun _ h => absurd h List.not_mem_nil)
            (showable_of_fails hanswer hthrough.trader hconvertible)
      | ok answer =>
          obtain ⟨status, response⟩ := answer
          simp only [hanswer] at hholds' hcontent
          have hstores := storedResult_storesAnswer submits.environment
            (disposeModelOf model disposeFormModel) disposeFormModel status response sessions.kind
            data
          have hdate' : HoldsTriggerDate _ := fun s hs =>
            hdate s ((hstores.others .surveyRequestTriggerDate (by decide)).symm.trans hs)
          have htrader : data .traderDetails ≠ none := by simp [hthrough.trader]
          have hredirect := hcontent.trans (storedResult_content submits.environment
            (disposeModelOf model disposeFormModel) disposeFormModel status response)
          obtain ⟨request, hrequest⟩ := outcomeRequest_nextPage status response
          exact (seesOutcome_iff_holdsAll hredirect hrequest hholds' hdate' hapart).trans
            ((holdsAll_outcomeKeys_iff hstores htrader hvehicle _).trans
              (showable_iff_of_answers hanswer hthrough.trader hconvertible).symm)

end Dispose

/-! ### Runs -/

/-- A vehicle is only stored with the pair that it was looked up by. -/
def HoldsPair : History joda → ApplicationData → Prop := fun _ data =>
  data .vehicleLookupDetails ≠ none → data .vehicleLookupFormModel ≠ none

theorem preserves_holdsPair (P : RunCondition joda) (kind : SessionKind) (config : Config) :
    Preserves kind config P HoldsPair := by
  rintro history data exchange trackingId calls response h hstep - hvehicle
  cases hstep.lookupStep kind with
  | looksUp hrequest hvalid hmodel =>
      rw [hmodel]
      exact Option.some_ne_none _
  | keeps hmodel hkept =>
      rw [hmodel]
      exact h (hkept ▸ hvehicle)
  | forgets hforgotten => exact absurd hforgotten.1 hvehicle

/-- In every session in which the confirmation page was shown, a submission shows its outcome
exactly if it can be sent and the identifiers of the page will be there. -/
theorem seesOutcome_iff_showable (sessions : Sessions) (config : Config) {jar : Jar}
    (hclean : Clean jar) {exchanges : List (Exchange joda)}
    (hapart : ∀ exchange ∈ exchanges, sessions.Apart exchange.draw)
    (hlong : ∀ exchange ∈ exchanges, ReadsLong exchange) {shows submits : Exchange joda}
    (hshows : sessions.Apart shows.draw) (hsubmits : sessions.Apart submits.draw)
    {view : DisposeViewModel} {filled : Form DisposeFormModel} {today : DayMonthYear}
    (hpage : (sessions.serve config (final (sessions.serve config) jar exchanges) shows).2.content =
      .ok (.dispose view filled today))
    {form : Form DisposeFormModel} {disposeFormModel : DisposeFormModel}
    (hrequest : submits.request = .disposeSubmit form)
    (hvalid : form.valid = some disposeFormModel) :
    SeesOutcome sessions config
        (sessions.serve config (final (sessions.serve config) jar exchanges) shows).1 submits ↔
      Dispose.Showable submits.environment
        (sessions.applicationData
          (sessions.serve config (final (sessions.serve config) jar exchanges) shows).1)
        disposeFormModel := by
  obtain ⟨data, hholds, hdate, hpair⟩ := Sessions.Throughout.holdsInvariant
    ((preserves_holdsTriggerDate sessions.kind config).and (preserves_holdsPair _ _ _))
    ⟨by rintro s ⟨⟩, fun h => absurd rfl h⟩ hclean hapart
    (Transition.along_of_forall _ fun _ => hlong)
  obtain ⟨trackingId, calls, response, hstep, hreply, hholds'⟩ := hholds.step config hshows
  rw [hreply] at hpage
  have hconfirms := hstep.confirms_of_content hpage
  rw [hconfirms.kept] at hholds'
  obtain ⟨trader, htrader⟩ := Option.ne_none_iff_exists'.mp hconfirms.trader
  obtain ⟨model, hmodel⟩ := Option.ne_none_iff_exists'.mp (hpair hconfirms.vehicle)
  rw [hholds'.applicationData_eq]
  exact Dispose.seesOutcome_iff_of_holds config hholds' hdate hsubmits
    ⟨⟨form, hrequest, hvalid⟩, hconfirms.opened, htrader, hmodel⟩ hconfirms.vehicle

section Dealer

open Dealer

/-- The session of a dealer to whom the confirmation page of a vehicle was shown. -/
def confirming : Jar :=
  ((Sessions.clearText noCookieFlags).serve {}
    (final ((Sessions.clearText noCookieFlags).serve {}) ∅
      (entersDetails ++ [looksUp "1" "A1" found])) asksForDisposePage).1

/-- A disposal of an application that cannot be processed: there is no transaction. -/
def disposesUnprocessed : Exchange utc :=
  { disposes with
    environment :=
      { services found with
        callDisposeService := .ok
          { status := 200
            json := .ok (some
              { transactionId := ""
                registrationNumber := ""
                auditId := ""
                responseCode :=
                  some "ms.vehiclesService.response.unableToProcessApplication" }) } } }

theorem content_asksForDisposePage :
    ((Sessions.clearText noCookieFlags).serve {}
      (final ((Sessions.clearText noCookieFlags).serve {}) ∅
        (entersDetails ++ [looksUp "1" "A1" found])) asksForDisposePage).2.content =
      .ok (.dispose
        { vehicleMake := "Make"
          vehicleModel := "Model"
          dealerName := "Dealer"
          dealerAddress := { address := ["1 High Street", "Town", "AA11AA"] }
          registrationNumber := "A1" } {} noon.today) := by
  obtain ⟨trackingIds, hlength, hholds, -⟩ := run (entersDetails ++ [looksUp "1" "A1" found])
  obtain ⟨a, b, c, rfl⟩ := List.length_eq_three.mp hlength
  obtain ⟨d, -, hreply⟩ : ∃ d, Holds (.clearText noCookieFlags) _ _ ∧
      ((Sessions.clearText noCookieFlags).serve {} _ asksForDisposePage).2 = _ :=
    serve_simulates {} hholds trivial
  rw [hreply]
  rfl

theorem seesOutcome_iff_showable_dealer :
    SeesOutcome (.clearText noCookieFlags) {} confirming disposes ↔
      Dispose.Showable disposes.environment
        ((Sessions.clearText noCookieFlags).applicationData confirming)
        { mileage := none
          dateOfDisposal := { day := 1, month := 9, year := 2014 }
          consent := "true"
          lossOfRegistrationConsent := "true" } :=
  seesOutcome_iff_showable (.clearText noCookieFlags) {} (fun _ _ => rfl) (fun _ _ => trivial)
    (by
      intro exchange hmem
      simp only [entersDetails, List.cons_append, List.nil_append, List.mem_cons,
        List.not_mem_nil, or_false] at hmem
      rcases hmem with rfl | rfl | rfl <;> exact ⟨by decide, by decide⟩)
    trivial trivial content_asksForDisposePage rfl rfl

/-- An application that cannot be processed, with no transaction, sends the user away. -/
theorem not_seesOutcome_unprocessed :
    ¬ SeesOutcome (.clearText noCookieFlags) {} confirming disposesUnprocessed := by
  obtain ⟨trackingIds, hlength, hholds, -⟩ :=
    run (entersDetails ++ [looksUp "1" "A1" found, asksForDisposePage])
  obtain ⟨a, b, c, d, rfl⟩ := List.length_eq_four.mp hlength
  intro h
  have hshowable := (Dispose.seesOutcome_iff_of_holds {} hholds (by rintro s ⟨⟩) trivial
    ⟨⟨_, rfl, rfl⟩, rfl, rfl, rfl⟩ (Option.some_ne_none _)).mp h
  rcases hshowable.transactionId _ _ rfl (.inr rfl) with ⟨_, ⟨⟩, hne⟩ | hheld
  · exact hne rfl
  · exact hheld rfl

end Dealer

end VehiclesOnline
