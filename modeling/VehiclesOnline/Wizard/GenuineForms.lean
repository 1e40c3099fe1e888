import VehiclesOnline.Wizard.HttpTraffic

/-! # Genuine forms

What a session holds, and what is disposed of in it, comes from forms of its own pages, and a form
of its own pages is always handled. Another site can make the browser send requests in between, but
none of them is let in. -/

namespace VehiclesOnline

open Csrf (LetIn InSession delimiter getToken inspectedBytes tokenName)

variable {joda : Joda}

/-! ### What a request is bound from -/

/-- The form of a request is bound from the data. -/
def Request.BoundFrom (clocks : FormClocks joda) (data : FormData) : Request → Prop
  | setUpTradeDetailsSubmit form => form = SetUpTradeDetails.form.bindForm data
  | businessChooseYourAddressSubmit form => form = BusinessChooseYourAddress.form.bindForm data
  | enterAddressManuallySubmit form => form = EnterAddressManually.form.bindForm data
  | vehicleLookupSubmit form => form = VehicleLookup.form.bindForm data
  | disposeSubmit form =>
      form = (Dispose.form clocks.chronology clocks.constructed clocks.bound).bindForm data
  | _ => True

namespace Routes

variable {readers : PlayReaders} {clocks : FormClocks joda} {path : String}
variable {referer : Option String} {data : FormData} {request : Request}

theorem boundFrom_of_mem_fixed {route : String × String × Request}
    (h : route ∈ fixed clocks referer data) : route.2.2.BoundFrom clocks data := by
  revert route
  simp [fixed, Request.BoundFrom]

theorem boundFrom_of_handler {header : Csrf.RequestHeader} {body : Csrf.Body}
    (h : handler readers clocks header path body = .ok (.wizard request)) :
    ∃ data, readers.formData header body = some data ∧ request.BoundFrom clocks data := by
  obtain ⟨data, hdata, hrequest⟩ := wizardRequest_of_handler h
  refine ⟨data, hdata, ?_⟩
  rcases wizardRequest_cases hrequest with hroute | ⟨_, rfl, -⟩ | ⟨_, rfl, -⟩ | ⟨_, rfl, -⟩
  · exact boundFrom_of_mem_fixed hroute
  · trivial
  · trivial
  · trivial

end Routes

/-! ### What is let in -/

/-- A request that was let in to its session, with the form that its body holds. -/
def Composition.Sent (composition : Composition) (entry : HttpServed joda) (request : Request) :
    Prop :=
  ∃ requestCookies trackingId tags data,
    composition.sessions.admitted entry.exchange.draw entry.request = .ok requestCookies ∧
    InSession composition.csrf (entry.exchange.http.header requestCookies) trackingId ∧
    LetIn composition.csrf trackingId (entry.exchange.http.header requestCookies)
      entry.exchange.http.body ∧
    entry.exchange.http.method = request.method ∧
    composition.readers.formData { entry.exchange.http.header requestCookies with tags := tags }
      entry.exchange.http.body = some data ∧
    request.BoundFrom entry.exchange.clocks data

section Traffic

variable {composition : Composition} {draws : Set SessionDraw}
variable {exchanges : Set (HttpExchange joda)}

theorem HttpServedWell.sent {served : List (HttpServed joda)} {entry : HttpServed joda}
    (hassumed : composition.Assumptions draws exchanges)
    (h : HttpServedWell composition draws exchanges served entry) {request : Request}
    (hhandled : composition.handled entry = .ok (.wizard request)) :
    composition.Sent entry request := by
  obtain ⟨sessionSecretKey, trackingId, requestCookies, cookies, hadmitted⟩ :=
    hassumed.apart.exists_admittedIn (hassumed.draw_mem _ h.mem_exchanges) h.request.whole
  rw [hadmitted.handled_eq] at hhandled
  rcases hadmitted.handlerFor hassumed h.mem_exchanges with
    ⟨hlet, tags, hhandler⟩ | ⟨hlet, cause, hcause, hhandler⟩
  · rw [hhandled] at hhandler
    obtain ⟨data, hdata, hbound⟩ := Routes.boundFrom_of_handler hhandler.symm
    exact ⟨requestCookies, trackingId, tags, data, hadmitted.passes.admitted_eq,
      hadmitted.inSession, hlet, (Routes.method_of_handler hhandler.symm).symm, hdata, hbound⟩
  · rw [hhandled] at hhandler
    cases hhandler

/-- The actions whose results reached the browser were those of requests that were let in. -/
theorem HttpServedWell.sent_of_returned {served : List (HttpServed joda)}
    {entry : HttpServed joda} (hassumed : composition.Assumptions draws exchanges)
    (h : HttpServedWell composition draws exchanges served entry) {entry' : Served joda}
    (hreturned : composition.returned entry = some entry') :
    composition.Sent entry entry'.exchange.request := by
  rw [Composition.returned] at hreturned
  split at hreturned
  next request hhandled =>
    split at hreturned
    · cases hreturned
      exact h.sent hassumed hhandled
    · cases hreturned
  next => cases hreturned

/-- What is called for a request is called by the action that handles it. -/
theorem mem_calls_reply {exchange : HttpExchange joda} {outcome : Request → Outcome Response}
    {handler : Except Throwable Handler} {call : ServiceCall}
    (h : call ∈ (composition.reply exchange outcome handler).calls) :
    ∃ request, handler = .ok (.wizard request) ∧ call ∈ (outcome request).calls := by
  have hpassed : ∀ reply : HttpReply,
      (composition.passedOn exchange reply).calls = reply.calls := by
    intro reply
    rw [Composition.passedOn]
    split <;> rfl
  cases handler with
  | error cause => exact absurd h List.not_mem_nil
  | ok handler =>
      cases handler with
      | page page =>
          rw [Composition.reply, hpassed] at h
          exact absurd h List.not_mem_nil
      | wizard request =>
          refine ⟨request, rfl, ?_⟩
          rw [Composition.reply] at h
          cases hresult : (outcome request).result with
          | error cause =>
              rw [hresult] at h
              exact h
          | ok response =>
              rw [hresult] at h
              simpa only [hpassed] using h

/-- However requests overtake each other, and whatever other sites send, a disposal is built of a
genuine form, and of a lookup and a trader that genuine forms of the same session entered. -/
theorem http_inFlight_disposes_genuine (composition : Composition) {jar : Jar}
    (hclean : Clean jar) (draws : Set SessionDraw) (exchanges : Set (HttpExchange joda))
    (hassumed : composition.Assumptions draws exchanges)
    (s : Snapshots.Network Jar (List Cookie) (HttpServed joda))
    (hreach : Snapshots.Reachable (composition.traffic exchanges) jar s)
    (before : List (HttpServed joda)) (entry : HttpServed joda) (after : List (HttpServed joda))
    (hserved : s.served = before ++ entry :: after) (disposal : DisposeRequest)
    (trackingId : String) (answer : Except Throwable (Answer DisposeResponse))
    (hcall : .dispose disposal trackingId answer ∈
      composition.calls entry.exchange entry.request) :
    (∃ requestCookies sessionSecretKey form disposeFormModel model trader,
      composition.sessions.admitted entry.exchange.draw entry.request = .ok requestCookies ∧
      composition.sessions.secretOf requestCookies = some sessionSecretKey ∧
      composition.Sent entry (.disposeSubmit form) ∧ form.valid = some disposeFormModel ∧
      Entered composition.sessions sessionSecretKey (composition.returns after)
        .vehicleLookupFormModel model ∧
      Entered composition.sessions sessionSecretKey (composition.returns after)
        .traderDetails trader ∧
      Dispose.buildDisposeMicroServiceRequest entry.exchange.environment
        (Dispose.disposeModelOf model disposeFormModel) trader = .ok disposal) ∧
    ∀ sent ∈ after, ∀ sent', composition.returned sent = some sent' →
      composition.Sent sent sent'.exchange.request := by
  have hwell : HttpServedWell composition draws exchanges after entry :=
    .of_reachable hassumed hclean hreach hserved
  refine ⟨?_, ?_⟩
  · obtain ⟨sessionSecretKey, trackingId', requestCookies, cookies, hadmitted⟩ :=
      hassumed.apart.exists_admittedIn (hassumed.draw_mem _ hwell.mem_exchanges)
        hwell.request.whole
    obtain ⟨data, hcoded, hwrote⟩ := hwell.request.coded sessionSecretKey hadmitted.mem_secrets
    rw [(hadmitted.answersWith hassumed.apart).calls_eq] at hcall
    obtain ⟨request, hhandler, hcall⟩ := mem_calls_reply hcall
    rw [Sessions.outcome, ofJar_eq_ofData hadmitted.found (hadmitted.coded hcoded)] at hcall
    have hstep : WizardStep composition.config trackingId' data (entry.exchange.handling request)
        _ _ := wizardStep
    obtain ⟨disposeFormModel, trader, model, hlet, hbuild⟩ := hstep.letThrough_of_dispose_mem hcall
    obtain ⟨form, hrequest, hvalid⟩ := hlet.submitted
    obtain rfl : request = .disposeSubmit form := hrequest
    have hanswered : AllAnswered composition.sessions composition.config
        (composition.returns after) :=
      .of_http_reachable hassumed hclean hreach (hserved.trans (List.append_cons _ _ _))
    exact ⟨requestCookies, sessionSecretKey, form, disposeFormModel, model, trader,
      hadmitted.passes.admitted_eq, hadmitted.secretOf_eq,
      hwell.sent hassumed (hadmitted.handled_eq.trans hhandler), hvalid,
      hanswered.entered_lookup (hwrote _ _ hlet.lookup),
      hanswered.entered_trader (hwrote _ _ hlet.trader), hbuild⟩
  · intro sent hsent sent' hreturned
    obtain ⟨later, earlier, rfl⟩ := List.append_of_mem hsent
    have hsplit : s.served = (before ++ entry :: later) ++ sent :: earlier := by
      rw [hserved, List.append_assoc, List.cons_append]
    exact (HttpServedWell.of_reachable hassumed hclean hreach hsplit).sent_of_returned hassumed
      hreturned

/-- However requests overtake each other, a form that was sent from a page of its session reaches
its action with what was typed, and is answered as the wizard answers it. -/
theorem http_inFlight_handles_form (composition : Composition) (hreads : composition.ReadsForms)
    {jar : Jar} (hclean : Clean jar) (draws : Set SessionDraw)
    (exchanges : Set (HttpExchange joda)) (hassumed : composition.Assumptions draws exchanges)
    (s : Snapshots.Network Jar (List Cookie) (HttpServed joda))
    (hreach : Snapshots.Reachable (composition.traffic exchanges) jar s)
    (before : List (HttpServed joda)) (entry : HttpServed joda) (after : List (HttpServed joda))
    (hserved : s.served = before ++ entry :: after)
    (page : Csrf.RequestHeader) (hpage : Csrf.IsUri page.uri) (trackingId : String)
    (hpageSession : InSession composition.csrf page trackingId) (draw : Csrf.TokenDraw)
    (token : String) (htoken : getToken composition.csrf draw page = .ok token)
    (requestCookies : Jar) (hadmitted :
      composition.sessions.admitted entry.exchange.draw entry.request = .ok requestCookies)
    (hsession : InSession composition.csrf (entry.exchange.http.header requestCookies) trackingId)
    (base path : String) (fields : List (String × String))
    (hsubmits : entry.exchange.http.Submits (base ++ page.uri) path ((tokenName, token) :: fields))
    (hlength : entry.exchange.http.body.length ≤ inspectedBytes)
    (hnames : ∀ field ∈ fields, field.1 ≠ "" ∧ ¬ isArrayName field.1) (request : Request)
    (hposted : Routes.PostedTo composition.readers entry.exchange.clocks
      (some (base ++ page.uri)) (formDataOf ((tokenName, token) :: fields)) path request) :
    ∃ sessionSecretKey data,
      composition.sessions.secretOf requestCookies = some sessionSecretKey ∧
      AllStored (composition.sessions.Wrote composition.config (composition.returns after)
        sessionSecretKey) data ∧
      (composition.answer entry.exchange entry.request).content =
        .wizard (settle (VehiclesOnline.handle composition.config entry.exchange.environment
          (.ofData trackingId data) request).result).content ∧
      composition.calls entry.exchange entry.request =
        (VehiclesOnline.handle composition.config entry.exchange.environment
          (.ofData trackingId data) request).calls := by
  have hwell : HttpServedWell composition draws exchanges after entry :=
    .of_reachable hassumed hclean hreach hserved
  obtain ⟨sessionSecretKey, trackingId', requestCookies', cookies, hin⟩ :=
    hassumed.apart.exists_admittedIn (hassumed.draw_mem _ hwell.mem_exchanges) hwell.request.whole
  obtain rfl : requestCookies' = requestCookies :=
    Except.ok.inj (hin.passes.admitted_eq.symm.trans hadmitted)
  obtain rfl : trackingId' = trackingId := Except.ok.inj (hin.inSession.symm.trans hsession)
  obtain ⟨data, hcoded, hwrote⟩ := hwell.request.coded sessionSecretKey hin.mem_secrets
  have hhandler : composition.handlerFor entry.exchange requestCookies' = .ok (.wizard request) :=
    hsubmits.handlerFor hreads hlength hnames hsession
      (hassumed.trackingIds _ hin.mem_trackingIds) (Csrf.minted_of_getToken hpageSession htoken)
      hpage hposted
  have huri : Uri.Reference entry.exchange.http.uri.toList := by
    rw [hsubmits.uri]
    exact hposted.reference
  obtain ⟨hcontent, hcalls⟩ := hin.answer_handle hassumed.apart hcoded hhandler huri
  exact ⟨sessionSecretKey, data, hin.secretOf_eq, hwrote, hcontent, hcalls⟩

end Traffic

section Dealer

open Csrf (vehicleLookupToken vehicleLookupUri)
open Dealer

/-- The vehicle is looked up again, and disposed of before that lookup is answered. -/
theorem http_inFlight_handles_form_lookup :
    ∃ (jar : Jar) (served : List (HttpServed utc)),
      served.map HttpServed.exchange = (formsUpToLookup.map Prod.fst).reverse ∧
      (∃ disposal trackingId answer, ServiceCall.dispose disposal trackingId answer ∈
        clearTextComposition.calls sendsDisposal jar) ∧
      ∃ requestCookies sessionSecretKey data,
        clearTextComposition.sessions.admitted sendsLookup.draw jar = .ok requestCookies ∧
        clearTextComposition.sessions.secretOf requestCookies = some sessionSecretKey ∧
        AllStored (clearTextComposition.sessions.Wrote clearTextComposition.config
          (clearTextComposition.returns (⟨jar, sendsDisposal⟩ :: served)) sessionSecretKey) data ∧
        (clearTextComposition.answer sendsLookup jar).content =
          .wizard (settle (VehiclesOnline.handle clearTextComposition.config
            sendsLookup.environment (.ofData defaultTrackingId data) (.vehicleLookupSubmit
              (VehicleLookup.form.bindForm
                (formDataOf ((tokenName, vehicleLookupToken) :: lookupFields))))).result).content ∧
        clearTextComposition.calls sendsLookup jar =
          (VehiclesOnline.handle clearTextComposition.config sendsLookup.environment
            (.ofData defaultTrackingId data) (.vehicleLookupSubmit
              (VehicleLookup.form.bindForm
                (formDataOf ((tokenName, vehicleLookupToken) :: lookupFields))))).calls := by
  have hplain : PlainFields lookupFields := plainFields_dealer _ (by simp)
  have hroute : ("POST", "/disposal-of-vehicle/vehicle-lookup", Request.vehicleLookupSubmit
      (VehicleLookup.form.bindForm
        (formDataOf ((tokenName, vehicleLookupToken) :: lookupFields)))) ∈
      Routes.fixed sendsLookup.clocks (some ("http://localhost:9000" ++ vehicleLookupUri))
        (formDataOf ((tokenName, vehicleLookupToken) :: lookupFields)) := by
    simp [Routes.fixed]
  obtain ⟨jar, served, hreach, hmap, hcalled⟩ := formsUpToLookup_reachable
  obtain ⟨_, requestCookies, _, hadmitted⟩ := exists_admittedIn_dealer sendsLookup_mem hreach
  obtain ⟨sessionSecretKey, data, hsecret, hwrote, hcontent, hcalls⟩ :=
    http_inFlight_handles_form clearTextComposition readsForms_clearText (fun _ _ => rfl)
      {zeroDraw} dealerForms dealerForms_assumptions _
      (overtaken_reachable sendsLookup_mem sendsDisposal_mem hreach) []
      ⟨jar, sendsLookup⟩ (⟨jar, sendsDisposal⟩ :: served) rfl (Csrf.pageRequest vehicleLookupUri)
      Csrf.isUri_vehicleLookupUri defaultTrackingId (Csrf.inSession_clearTextCsrf rfl)
      Csrf.firstDraw vehicleLookupToken rfl requestCookies hadmitted.passes.admitted_eq
      hadmitted.inSession "http://localhost:9000" "/disposal-of-vehicle/vehicle-lookup"
      lookupFields ⟨rfl, rfl, rfl, rfl, rfl⟩ (length_sendsForm hplain) hplain.1 _
      (.fixed hroute)
  exact ⟨jar, served, hmap, hcalled, requestCookies, sessionSecretKey, data,
    hadmitted.passes.admitted_eq, hsecret, hwrote, hcontent, hcalls⟩

/-- The vehicle is looked up again before the disposal is handled. -/
theorem http_inFlight_disposes_genuine_dealer :
    ∃ (jar : Jar) (served : List (HttpServed utc)) (requestCookies : Jar)
      (sessionSecretKey : String) (form : Form DisposeFormModel)
      (disposeFormModel : DisposeFormModel) (model : VehicleLookupFormModel)
      (trader : TraderDetailsModel),
      served.map HttpServed.exchange = (formsUpToLookup.map Prod.fst).reverse ∧
      clearTextComposition.sessions.admitted sendsDisposal.draw jar = .ok requestCookies ∧
      clearTextComposition.sessions.secretOf requestCookies = some sessionSecretKey ∧
      clearTextComposition.Sent ⟨jar, sendsDisposal⟩ (.disposeSubmit form) ∧
      form.valid = some disposeFormModel ∧
      Entered clearTextComposition.sessions sessionSecretKey
        (clearTextComposition.returns (⟨jar, sendsLookup⟩ :: served))
        .vehicleLookupFormModel model ∧
      Entered clearTextComposition.sessions sessionSecretKey
        (clearTextComposition.returns (⟨jar, sendsLookup⟩ :: served)) .traderDetails trader := by
  obtain ⟨jar, served, hreach, hmap, disposal, trackingId, answer, hcall⟩ :=
    formsUpToLookup_reachable
  obtain ⟨⟨requestCookies, sessionSecretKey, form, disposeFormModel, model, trader, hadmitted,
    hsecret, hsent, hvalid, hmodel, htrader, -⟩, -⟩ :=
    http_inFlight_disposes_genuine clearTextComposition (fun _ _ => rfl) {zeroDraw} dealerForms
      dealerForms_assumptions _ (overtaken_reachable sendsDisposal_mem sendsLookup_mem hreach) []
      ⟨jar, sendsDisposal⟩ (⟨jar, sendsLookup⟩ :: served) rfl disposal trackingId answer hcall
  exact ⟨jar, served, requestCookies, sessionSecretKey, form, disposeFormModel, model, trader, hmap,
    hadmitted, hsecret, hsent, hvalid, hmodel, htrader⟩

end Dealer

end VehiclesOnline
