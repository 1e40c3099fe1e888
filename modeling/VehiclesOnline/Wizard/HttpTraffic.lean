import VehiclesOnline.Wizard.Interleavings
import VehiclesOnline.Wizard.SentForms

/-! # HTTP traffic

Requests in flight again, with the filters in front of the actions. Some requests of a browser are
refused by the token check, some are for pages that are not of the wizard, and some results are lost
behind the log. The others are answered as the wizard answers them. -/

namespace VehiclesOnline

open Csrf (InSession LetIn Refusal delimiter inspectedBytes tokenOfBody)

variable {joda : Joda}

/-- A request that was served, with the cookies that it carried. -/
structure HttpServed (joda : Joda) where
  request : Jar
  exchange : HttpExchange joda

namespace Composition

variable (composition : Composition)

/-- What the check and the router made of a request. -/
def handled (entry : HttpServed joda) : Except Throwable Handler := do
  let requestCookies ← composition.sessions.admitted entry.exchange.draw entry.request
  composition.handlerFor entry.exchange requestCookies

/-- The action that a request was passed on to, if its result is not lost behind the log. -/
def returned (entry : HttpServed joda) : Option (Served joda) :=
  match composition.handled entry with
  | .ok (.wizard request) =>
      if (Uri.parse entry.exchange.http.uri.toList).isSome then
        some ⟨entry.request, entry.exchange.handling request⟩
      else none
  | _ => none

/-- The requests that were served, as the actions of the wizard see them. -/
def returns (served : List (HttpServed joda)) : List (Served joda) :=
  served.filterMap composition.returned

/-- A browser whose requests are among the given ones, and the application behind its filters. -/
def traffic (exchanges : Set (HttpExchange joda)) :
    Snapshots.Protocol Jar (List Cookie) (HttpServed joda) where
  receive := Jar.receive
  Serves request response entry := entry.request = request ∧ entry.exchange ∈ exchanges ∧
    response = (composition.answer entry.exchange request).setCookies

/-- What is assumed of the traffic: the digests that name cookies do not collide, tracking ids end
where a token says that they end, and no form holds a token that is forged. -/
structure Assumptions (draws : Set SessionDraw) (exchanges : Set (HttpExchange joda)) : Prop where
  apart : composition.sessions.DrawsApart draws
  draw_mem : ∀ exchange ∈ exchanges, exchange.draw ∈ draws
  trackingIds : ∀ trackingId ∈ composition.sessions.trackingIds draws,
    delimiter ∉ trackingId.toList
  unforged : ∀ exchange ∈ exchanges, ∀ requestCookies token,
    tokenOfBody composition.csrf (exchange.http.header requestCookies)
      (exchange.http.body.take inspectedBytes) = some token → Csrf.Unforged composition.csrf token

/-- How a request of a session is answered: it is refused, or handled as the router tells. -/
inductive AnsweredInSession (trackingId : String) (data : ApplicationData)
    (exchange : HttpExchange joda) (header : Csrf.RequestHeader) : HttpReply → Prop
  | refused {cause : Throwable}
      (h : ¬ LetIn composition.csrf trackingId header exchange.http.body)
      (hcause : Refusal cause) :
      AnsweredInSession trackingId data exchange header (.ofError cause [])
  | handled (tags : List (String × String))
      (h : LetIn composition.csrf trackingId header exchange.http.body) :
      AnsweredInSession trackingId data exchange header
        (composition.reply exchange
          (VehiclesOnline.handle composition.config exchange.environment
            (.ofData trackingId data))
          (Routes.handler composition.readers exchange.clocks { header with tags := tags }
            exchange.http.path exchange.http.body))

end Composition

/-! ### One request -/

section Request

variable {composition : Composition} {draws : Set SessionDraw}
variable {exchanges : Set (HttpExchange joda)}

/-- What a reply writes is written by an action whose result is not lost. -/
theorem mem_written_reply {exchange : HttpExchange joda} {outcome : Request → Outcome Response}
    {handler : Except Throwable Handler} {edit : Edit}
    (h : edit ∈ (composition.reply exchange outcome handler).effect.written) :
    ∃ request, handler = .ok (.wizard request) ∧
      (Uri.parse exchange.http.uri.toList).isSome = true ∧
        edit ∈ (settle (outcome request).result).edits := by
  have herror : ∀ {cause calls}, edit ∉ (HttpReply.ofError cause calls).effect.written := by
    intro cause calls hmem
    rw [HttpReply.ofError, written_errorResponse] at hmem
    exact List.not_mem_nil hmem
  have hpassed : ∀ {reply : HttpReply},
      edit ∈ (composition.passedOn exchange reply).effect.written →
        (Uri.parse exchange.http.uri.toList).isSome = true ∧ edit ∈ reply.effect.written := by
    intro reply hmem
    rw [Composition.passedOn] at hmem
    split at hmem
    next hparse => exact ⟨hparse, hmem⟩
    next => exact absurd hmem herror
  cases handler with
  | error cause => exact absurd h herror
  | ok handler =>
      cases handler with
      | page page => exact absurd (hpassed h).2 List.not_mem_nil
      | wizard request =>
          rw [Composition.reply] at h
          cases hresult : (outcome request).result with
          | error cause =>
              rw [hresult] at h
              exact absurd h herror
          | ok response =>
              rw [hresult] at h
              obtain ⟨hparse, hmem⟩ := hpassed h
              refine ⟨request, rfl, hparse, ?_⟩
              rwa [hresult, settle, ← Response.written_effect]

theorem AdmittedIn.handled_eq {entry : HttpServed joda} {requestCookies : Jar}
    {cookies : List Cookie} {sessionSecretKey trackingId : String}
    (h : AdmittedIn composition.sessions draws entry.exchange.draw entry.request sessionSecretKey
      trackingId requestCookies cookies) :
    composition.handled entry = composition.handlerFor entry.exchange requestCookies := by
  rw [Composition.handled, h.passes.admitted_eq]
  rfl

theorem AdmittedIn.inSession {exchange : HttpExchange joda} {request requestCookies : Jar}
    {cookies : List Cookie} {sessionSecretKey trackingId : String}
    (h : AdmittedIn composition.sessions draws exchange.draw request sessionSecretKey trackingId
      requestCookies cookies) :
    Csrf.InSession composition.csrf (exchange.http.header requestCookies) trackingId := by
  obtain ⟨session, hsession, -, rfl⟩ := h.found
  have hget : composition.csrf.clientSideSessionFactory.getSession
      (exchange.http.header requestCookies).cookies = .ok session := hsession
  rw [Csrf.InSession, RichCookies.trackingId, hget]
  rfl

/-- The check lets a request in to its session, and the router finds the handler, or the check
refuses the request. -/
theorem AdmittedIn.handlerFor (hassumed : composition.Assumptions draws exchanges)
    {exchange : HttpExchange joda} (hexchange : exchange ∈ exchanges)
    {request requestCookies : Jar} {cookies : List Cookie} {sessionSecretKey trackingId : String}
    (h : AdmittedIn composition.sessions draws exchange.draw request sessionSecretKey trackingId
      requestCookies cookies) :
    (LetIn composition.csrf trackingId (exchange.http.header requestCookies) exchange.http.body ∧
        ∃ tags, composition.handlerFor exchange requestCookies =
          Routes.handler composition.readers exchange.clocks
            { exchange.http.header requestCookies with tags := tags } exchange.http.path
            exchange.http.body) ∨
      (¬ LetIn composition.csrf trackingId (exchange.http.header requestCookies)
          exchange.http.body ∧
        ∃ cause, Refusal cause ∧
          composition.handlerFor exchange requestCookies = .error cause) := by
  rcases Csrf.apply_passOn exchange.tokenDraw h.inSession
    (hassumed.trackingIds trackingId h.mem_trackingIds)
    (hassumed.unforged exchange hexchange requestCookies) with
    ⟨hlet, tags, happly⟩ | ⟨hlet, cause, hcause, happly⟩
  · refine .inl ⟨hlet, tags, ?_⟩
    rw [Composition.handlerFor, happly]
    rfl
  · refine .inr ⟨hlet, cause, hcause, ?_⟩
    rw [Composition.handlerFor, happly]
    rfl

end Request

/-! ### Every interleaving -/

section Traffic

variable {composition : Composition} {draws : Set SessionDraw}
variable {exchanges : Set (HttpExchange joda)}

variable (composition draws exchanges) in
/-- A request that was served carried a snapshot of which the invariant held. -/
structure HttpServedWell (served : List (HttpServed joda)) (entry : HttpServed joda) : Prop where
  mem_exchanges : entry.exchange ∈ exchanges
  request : JarInvariant composition.sessions composition.config draws
    (composition.returns served) entry.request

theorem mem_returns {served : List (HttpServed joda)} {entry : HttpServed joda}
    {entry' : Served joda} (hentry : entry ∈ served)
    (h : composition.returned entry = some entry') : entry' ∈ composition.returns served :=
  List.mem_filterMap.mpr ⟨entry, hentry, h⟩

theorem JarInvariant.receive_http (hassumed : composition.Assumptions draws exchanges)
    {served served' : List (HttpServed joda)} {entry : HttpServed joda}
    (hentry : HttpServedWell composition draws exchanges served entry) (hmem : entry ∈ served')
    {jar : Jar} (h : JarInvariant composition.sessions composition.config draws
      (composition.returns served') jar) :
    JarInvariant composition.sessions composition.config draws (composition.returns served')
      (jar.receive (composition.answer entry.exchange entry.request).setCookies) := by
  have hdraw := hassumed.draw_mem _ hentry.mem_exchanges
  obtain ⟨sessionSecretKey, trackingId, requestCookies, cookies, hadmitted⟩ :=
    hassumed.apart.exists_admittedIn hdraw hentry.request.whole
  have hanswers := hadmitted.answersWith hassumed.apart
  refine h.receive_cookies hassumed.apart hadmitted hdraw hentry.request.whole hanswers.cookies ?_
  intro key model hedit
  obtain ⟨request, hhandler, hparse, hedit⟩ := mem_written_reply hedit
  have hadmitted' : AdmittedIn composition.sessions draws (entry.exchange.handling request).draw
      entry.request sessionSecretKey trackingId requestCookies cookies := hadmitted
  refine ⟨⟨entry.request, entry.exchange.handling request⟩, mem_returns hmem ?_, ?_, ?_⟩
  · rw [Composition.returned, hadmitted.handled_eq, hhandler]
    exact if_pos hparse
  · exact hadmitted'.secretServed_eq
  · rw [hadmitted'.responseTo_eq]
    exact hedit

theorem http_traffic_keeps (hassumed : composition.Assumptions draws exchanges) :
    Snapshots.Keeps (composition.traffic exchanges)
      (fun served => JarInvariant composition.sessions composition.config draws
        (composition.returns served))
      (HttpServedWell composition draws exchanges) where
  mono served entry jar h := h.mono fun entry' hmem => by
    obtain ⟨other, hother, hreturned⟩ := List.mem_filterMap.mp hmem
    exact mem_returns (List.mem_cons_of_mem entry hother) hreturned
  good served request response entry h hserves := by
    obtain ⟨rfl, hexchange, -⟩ := hserves
    exact ⟨hexchange, h⟩
  receive served request response entry h hserves later jar hjar := by
    obtain ⟨rfl, hexchange, rfl⟩ := hserves
    exact JarInvariant.receive_http hassumed ⟨hexchange, h⟩
      (List.mem_append_right later List.mem_cons_self) hjar

theorem HttpServedWell.of_reachable (hassumed : composition.Assumptions draws exchanges)
    {jar : Jar} (hclean : Clean jar)
    {s : Snapshots.Network Jar (List Cookie) (HttpServed joda)}
    (hreach : Snapshots.Reachable (composition.traffic exchanges) jar s)
    {before : List (HttpServed joda)} {entry : HttpServed joda} {after : List (HttpServed joda)}
    (hserved : s.served = before ++ entry :: after) :
    HttpServedWell composition draws exchanges after entry :=
  (hreach.safe (http_traffic_keeps hassumed) (jarInvariant_of_clean hclean)).served _ _ _ hserved

/-- The actions behind the filters answer as those of a browser without filters do. -/
theorem AllAnswered.of_http_reachable (hassumed : composition.Assumptions draws exchanges)
    {jar : Jar} (hclean : Clean jar)
    {s : Snapshots.Network Jar (List Cookie) (HttpServed joda)}
    (hreach : Snapshots.Reachable (composition.traffic exchanges) jar s)
    {later served : List (HttpServed joda)} (hserved : s.served = later ++ served) :
    AllAnswered composition.sessions composition.config (composition.returns served) := by
  intro before entry after hsplit
  obtain ⟨before', rest, rfl, -, hrest⟩ := List.filterMap_eq_append_iff.mp hsplit
  obtain ⟨idle, entry', after', rfl, -, hreturned, rfl⟩ := List.filterMap_eq_cons_iff.mp hrest
  have hsplit' : s.served = (later ++ (before' ++ idle)) ++ entry' :: after' := by
    simpa using hserved
  have hwell : HttpServedWell composition draws exchanges after' entry' :=
    .of_reachable hassumed hclean hreach hsplit'
  have hrequest : entry.request = entry'.request ∧ entry.exchange.draw = entry'.exchange.draw := by
    rw [Composition.returned] at hreturned
    split at hreturned
    · split at hreturned
      · cases hreturned
        exact ⟨rfl, rfl⟩
      · cases hreturned
    · cases hreturned
  have hserved' : ServedWell composition.sessions composition.config draws {entry.exchange}
      (composition.returns after') entry := ⟨rfl, by rw [hrequest.1]; exact hwell.request⟩
  refine hserved'.answeredAsWizard hassumed.apart ?_
  rintro exchange rfl
  rw [hrequest.2]
  exact hassumed.draw_mem _ hwell.mem_exchanges

/-- However requests and responses overtake each other, and whatever the check refuses or the log
loses, every request that is let in to its session is answered as its handler tells, on data that
earlier requests of the session wrote. -/
theorem http_inFlight_simulates (composition : Composition) {jar : Jar} (hclean : Clean jar)
    (draws : Set SessionDraw) (exchanges : Set (HttpExchange joda))
    (hassumed : composition.Assumptions draws exchanges)
    (s : Snapshots.Network Jar (List Cookie) (HttpServed joda))
    (hreach : Snapshots.Reachable (composition.traffic exchanges) jar s)
    (before : List (HttpServed joda)) (entry : HttpServed joda) (after : List (HttpServed joda))
    (hserved : s.served = before ++ entry :: after) :
    ∃ sessionSecretKey trackingId data requestCookies reply,
      composition.sessions.admitted entry.exchange.draw entry.request = .ok requestCookies ∧
      composition.sessions.secretOf requestCookies = some sessionSecretKey ∧
      Csrf.InSession composition.csrf (entry.exchange.http.header requestCookies) trackingId ∧
      AllStored (composition.sessions.Wrote composition.config (composition.returns after)
        sessionSecretKey) data ∧
      composition.AnsweredInSession trackingId data entry.exchange
        (entry.exchange.http.header requestCookies) reply ∧
      (composition.answer entry.exchange entry.request).content = reply.content ∧
      composition.calls entry.exchange entry.request = reply.calls := by
  have hwell : HttpServedWell composition draws exchanges after entry :=
    .of_reachable hassumed hclean hreach hserved
  obtain ⟨sessionSecretKey, trackingId, requestCookies, cookies, hadmitted⟩ :=
    hassumed.apart.exists_admittedIn (hassumed.draw_mem _ hwell.mem_exchanges) hwell.request.whole
  obtain ⟨data, hcoded, hwrote⟩ := hwell.request.coded sessionSecretKey hadmitted.mem_secrets
  obtain ⟨hcontent, hcalls, -⟩ := hadmitted.answersWith hassumed.apart
  have houtcome : (fun request => composition.sessions.outcome composition.config
      (entry.exchange.handling request) requestCookies) =
      VehiclesOnline.handle composition.config entry.exchange.environment
        (.ofData trackingId data) := by
    funext request
    rw [Sessions.outcome, ofJar_eq_ofData hadmitted.found (hadmitted.coded hcoded)]
    rfl
  rw [houtcome] at hcontent hcalls
  refine ⟨sessionSecretKey, trackingId, data, requestCookies, _, hadmitted.passes.admitted_eq,
    hadmitted.secretOf_eq, hadmitted.inSession, hwrote, ?_, hcontent, hcalls⟩
  rcases hadmitted.handlerFor hassumed hwell.mem_exchanges with
    ⟨hlet, tags, hhandler⟩ | ⟨hlet, cause, hcause, hhandler⟩
  · rw [hhandler]
    exact .handled tags hlet
  · rw [hhandler]
    exact .refused hlet hcause

/-- A browser that waits for each response, and sends forms that are let in, runs the application
as if there were no filters. -/
theorem http_serve_reachable (hassumed : composition.Assumptions draws exchanges) {jar : Jar}
    (hclean : Clean jar) (inputs : List (HttpExchange joda × Request))
    (hinputs : ∀ input ∈ inputs, input.1 ∈ exchanges ∧ Uri.Reference input.1.http.uri.toList ∧
      ∀ requestCookies, ∀ trackingId ∈ composition.sessions.trackingIds draws,
        InSession composition.csrf (input.1.http.header requestCookies) trackingId →
        composition.handlerFor input.1 requestCookies = .ok (.wizard input.2)) :
    ∃ served, Snapshots.Reachable (composition.traffic exchanges) jar
        { state := Transition.final (composition.sessions.serve composition.config) jar
            (inputs.map fun input => input.1.handling input.2)
          served := served } ∧
      served.map HttpServed.exchange = (inputs.map Prod.fst).reverse := by
  induction inputs using List.reverseRecOn with
  | nil => exact ⟨[], .refl, rfl⟩
  | append_singleton inputs input ih =>
      obtain ⟨served, hreach, hmap⟩ := ih fun other hother =>
        hinputs other (List.mem_append_left _ hother)
      obtain ⟨hexchange, huri, hhandles⟩ := hinputs input (by simp)
      have hsafe := hreach.safe (http_traffic_keeps hassumed) (jarInvariant_of_clean hclean)
      obtain ⟨sessionSecretKey, trackingId, requestCookies, cookies, hadmitted⟩ :=
        hassumed.apart.exists_admittedIn (hassumed.draw_mem _ hexchange) hsafe.state.whole
      have hanswer := hadmitted.answer_eq
        (hhandles requestCookies trackingId hadmitted.mem_trackingIds hadmitted.inSession) huri
      have hserves : ∀ current, (composition.traffic exchanges).Serves current
          (composition.answer input.1 current).setCookies ⟨current, input.1⟩ :=
        fun current => ⟨rfl, hexchange, rfl⟩
      have hnext := hreach.inTurn (hserves _)
      rw [hanswer] at hnext
      rw [List.map_append, Transition.final, List.foldl_append]
      exact ⟨_, hnext, by simp [hmap]⟩

end Traffic

section Dealer

open Csrf (tokenName vehicleLookupToken vehicleLookupUri)
open Dealer

/-- The forms that a dealer sends. -/
def dealerForms : Set (HttpExchange utc) :=
  {exchange | ∃ path fields, exchange = sendsForm path fields ∧ PlainFields fields}

theorem dealerForms_assumptions : clearTextComposition.Assumptions {zeroDraw} dealerForms where
  apart := trivial
  draw_mem := by
    rintro _ ⟨path, fields, rfl, -⟩
    rfl
  trackingIds := by
    rintro _ rfl
    exact Csrf.delimiter_not_mem_defaultTrackingId
  unforged := by
    rintro _ ⟨path, fields, rfl, hplain⟩ requestCookies token htoken -
    have hbody : (sendsForm path fields).http.body =
        FormUrlEncoded.render ((tokenName, vehicleLookupToken) :: fields) := rfl
    have hlength : (sendsForm path fields).http.body.length ≤ inspectedBytes :=
      length_sendsForm hplain
    rw [List.take_of_length_le hlength, hbody, tokenOfBody_render readsForms_clearText _ hlength
      fun field hfield => (hplain.1 field hfield).1, Option.some_inj] at htoken
    exact ⟨defaultTrackingId, vehicleLookupUri, ⟨Csrf.firstDraw, htoken.symm⟩,
      Csrf.delimiter_not_mem_defaultTrackingId, Csrf.isUri_vehicleLookupUri⟩

/-- A browser without cookies sends one request, whose response is under way. -/
theorem sendsOnce_reachable (composition : Composition) {exchanges : Set (HttpExchange joda)}
    {exchange : HttpExchange joda} (h : exchange ∈ exchanges) :
    Snapshots.Reachable (composition.traffic exchanges) ∅
      { state := ∅
        responses := [(composition.answer exchange ∅).setCookies]
        served := [⟨∅, exchange⟩] } := by
  have hserves : (composition.traffic exchanges).Serves ∅
      (composition.answer exchange ∅).setCookies ⟨∅, exchange⟩ := ⟨rfl, h, rfl⟩
  exact .head (.send _) (.single (.serve _ [] [] ∅ _ _ rfl hserves))

/-- The forms up to the lookup, with the actions that they are for. -/
def formsUpToLookup : List (HttpExchange utc × Request) :=
  [(sendsForm "/disposal-of-vehicle/setup-trade-details" setUpFields,
      .setUpTradeDetailsSubmit (SetUpTradeDetails.form.bindForm
        (formDataOf ((tokenName, vehicleLookupToken) :: setUpFields)))),
    (sendsForm "/disposal-of-vehicle/business-choose-your-address" addressFields,
      .businessChooseYourAddressSubmit (BusinessChooseYourAddress.form.bindForm
        (formDataOf ((tokenName, vehicleLookupToken) :: addressFields)))),
    (sendsForm "/disposal-of-vehicle/vehicle-lookup" lookupFields,
      .vehicleLookupSubmit (VehicleLookup.form.bindForm
        (formDataOf ((tokenName, vehicleLookupToken) :: lookupFields))))]

def sendsDisposal : HttpExchange utc := sendsForm "/disposal-of-vehicle/dispose" disposeFields

theorem mem_dealerForms {path : String} {fields : List (String × String)}
    (h : fields ∈ [lookupFields, setUpFields, addressFields, disposeFields]) :
    sendsForm path fields ∈ dealerForms := ⟨_, _, rfl, plainFields_dealer _ h⟩

theorem sendsDisposal_mem : sendsDisposal ∈ dealerForms := mem_dealerForms (by simp)

theorem sendsLookup_mem : sendsLookup ∈ dealerForms := mem_dealerForms (by simp)

theorem posts_dealer {path : String} {fields : List (String × String)} {request : Request}
    (hplain : PlainFields fields)
    (hroute : ("POST", path, request) ∈ Routes.fixed (sendsForm path fields).clocks
      (some ("http://localhost:9000" ++ vehicleLookupUri))
      (formDataOf ((tokenName, vehicleLookupToken) :: fields))) :
    sendsForm path fields ∈ dealerForms ∧ Uri.Reference path.toList ∧
      ∀ requestCookies, ∀ trackingId ∈ clearTextComposition.sessions.trackingIds {zeroDraw},
        InSession clearTextComposition.csrf
          ((sendsForm path fields).http.header requestCookies) trackingId →
        clearTextComposition.handlerFor (sendsForm path fields) requestCookies =
          .ok (.wizard request) := by
  have hposted : Routes.PostedTo clearTextComposition.readers _ _ _ path request := .fixed hroute
  refine ⟨⟨path, fields, rfl, hplain⟩, hposted.reference, ?_⟩
  rintro requestCookies _ rfl hsession
  exact handlerFor_sendsForm hplain hposted hsession

theorem serve_formsUpToLookup :
    ∃ served, Snapshots.Reachable (clearTextComposition.traffic dealerForms) ∅
        { state := Transition.final ((Sessions.clearText noCookieFlags).serve {}) ∅
            (formsUpToLookup.map fun input => input.1.handling input.2)
          served := served } ∧
      served.map HttpServed.exchange = (formsUpToLookup.map Prod.fst).reverse := by
  refine http_serve_reachable dealerForms_assumptions (fun _ _ => rfl) formsUpToLookup ?_
  simp only [formsUpToLookup, List.forall_mem_cons]
  exact ⟨posts_dealer (plainFields_dealer _ (by simp)) (by simp [Routes.fixed]),
    posts_dealer (plainFields_dealer _ (by simp)) (by simp [Routes.fixed]),
    posts_dealer (plainFields_dealer _ (by simp)) (by simp [Routes.fixed]),
    fun _ hmem => absurd hmem List.not_mem_nil⟩

/-- In a run of the dealer's forms a form is admitted to the session of clear text. -/
theorem exists_admittedIn_dealer {exchange : HttpExchange utc} (hexchange : exchange ∈ dealerForms)
    {s : Snapshots.Network Jar (List Cookie) (HttpServed utc)}
    (hreach : Snapshots.Reachable (clearTextComposition.traffic dealerForms) ∅ s) :
    ∃ sessionSecretKey requestCookies cookies,
      AdmittedIn clearTextComposition.sessions {zeroDraw} exchange.draw s.state sessionSecretKey
        defaultTrackingId requestCookies cookies := by
  have hwhole := (hreach.safe (http_traffic_keeps dealerForms_assumptions)
    (jarInvariant_of_clean fun _ _ => rfl)).state.whole
  obtain ⟨sessionSecretKey, trackingId, requestCookies, cookies, hadmitted⟩ :=
    dealerForms_assumptions.apart.exists_admittedIn
      (dealerForms_assumptions.draw_mem _ hexchange) hwhole
  obtain rfl : trackingId = defaultTrackingId := hadmitted.mem_trackingIds
  exact ⟨sessionSecretKey, requestCookies, cookies, hadmitted⟩

/-- The forms are sent one after the other, and then the vehicle can be disposed of. -/
theorem formsUpToLookup_reachable :
    ∃ (jar : Jar) (served : List (HttpServed utc)),
      Snapshots.Reachable (clearTextComposition.traffic dealerForms) ∅
        { state := jar, served := served } ∧
      served.map HttpServed.exchange = (formsUpToLookup.map Prod.fst).reverse ∧
      ∃ disposal trackingId answer, ServiceCall.dispose disposal trackingId answer ∈
        clearTextComposition.calls sendsDisposal jar := by
  obtain ⟨served, hreach, hmap⟩ := serve_formsUpToLookup
  obtain ⟨trackingIds, hlength, hholds, -⟩ :=
    run (formsUpToLookup.map fun input => input.1.handling input.2)
  obtain ⟨a, b, c, rfl⟩ := List.length_eq_three.mp hlength
  generalize Transition.final _ _ _ = jar at hreach hholds
  refine ⟨jar, served, hreach, hmap, ?_⟩
  have hroute : ("POST", "/disposal-of-vehicle/dispose", Request.disposeSubmit
      ((Dispose.form Utc.chronology noon noon).bindForm
        (formDataOf ((tokenName, vehicleLookupToken) :: disposeFields)))) ∈
      Routes.fixed sendsDisposal.clocks (some ("http://localhost:9000" ++ vehicleLookupUri))
        (formDataOf ((tokenName, vehicleLookupToken) :: disposeFields)) := by
    simp [Routes.fixed, sendsDisposal, sendsForm]
  have hplain : PlainFields disposeFields := plainFields_dealer _ (by simp)
  obtain ⟨sessionSecretKey, requestCookies, cookies, hadmitted⟩ :=
    exists_admittedIn_dealer sendsDisposal_mem hreach
  have hhandler := handlerFor_sendsForm hplain (.fixed hroute) hadmitted.inSession
  cases hholds with
  | clearText hcoded =>
      obtain ⟨-, hcalls⟩ := hadmitted.answer_handle trivial hcoded hhandler
        (Uri.isSome_parse.mp (by decide))
      rw [hcalls]
      exact ⟨_, _, _, List.mem_singleton_self _⟩

/-- One form is sent, and another one that is answered first. -/
theorem overtaken_reachable {late early : HttpExchange utc} (hlate : late ∈ dealerForms)
    (hearly : early ∈ dealerForms) {jar : Jar} {served : List (HttpServed utc)}
    (hreach : Snapshots.Reachable (clearTextComposition.traffic dealerForms) ∅
      { state := jar, served := served }) :
    Snapshots.Reachable (clearTextComposition.traffic dealerForms) ∅
      { state := jar.receive (clearTextComposition.answer early jar).setCookies
        responses := [(clearTextComposition.answer late jar).setCookies]
        served := ⟨jar, late⟩ :: ⟨jar, early⟩ :: served } :=
  hreach.overtaken ⟨rfl, hlate, rfl⟩ ⟨rfl, hearly, rfl⟩

/-- A second lookup is answered before the disposal that was sent earlier. -/
theorem http_inFlight_simulates_disposal :
    ∃ (jar : Jar) (served : List (HttpServed utc)),
      served.map HttpServed.exchange = (formsUpToLookup.map Prod.fst).reverse ∧
      (∃ disposal trackingId answer, ServiceCall.dispose disposal trackingId answer ∈
        clearTextComposition.calls sendsDisposal jar) ∧
      ∃ sessionSecretKey trackingId data requestCookies reply,
        clearTextComposition.sessions.admitted sendsDisposal.draw jar = .ok requestCookies ∧
        clearTextComposition.sessions.secretOf requestCookies = some sessionSecretKey ∧
        InSession clearTextComposition.csrf (sendsDisposal.http.header requestCookies)
          trackingId ∧
        AllStored (clearTextComposition.sessions.Wrote clearTextComposition.config
          (clearTextComposition.returns (⟨jar, sendsLookup⟩ :: served)) sessionSecretKey) data ∧
        clearTextComposition.AnsweredInSession trackingId data sendsDisposal
          (sendsDisposal.http.header requestCookies) reply ∧
        (clearTextComposition.answer sendsDisposal jar).content = reply.content ∧
        clearTextComposition.calls sendsDisposal jar = reply.calls := by
  obtain ⟨jar, served, hreach, hmap, hcalled⟩ := formsUpToLookup_reachable
  exact ⟨jar, served, hmap, hcalled,
    http_inFlight_simulates clearTextComposition (fun _ _ => rfl) {zeroDraw} dealerForms
      dealerForms_assumptions _
      (overtaken_reachable sendsDisposal_mem sendsLookup_mem hreach) [] ⟨jar, sendsDisposal⟩
      (⟨jar, sendsLookup⟩ :: served) rfl⟩

end Dealer

end VehiclesOnline
