import VehiclesOnline.Wizard.GenuineForms

/-! # Traced calls

A request whose action calls a service leaves one line in the access log. The services are called
with the tracking id of the session, and the line names it, so that the one can be found from the
other. -/

namespace VehiclesOnline

open Effects (Returns)
open Effects.Outcome (lift_ok_bind)
open RequestCookies (getModel_ofData trackingId_ofData fill_ofData)

variable {joda : Joda}

/-! ### The tracking ids of calls -/

namespace ServiceCall

/-- The tracking id that a service is called with. -/
def trackingId? : ServiceCall → Option String
  | addressesForPostcode _ trackingId => some trackingId
  | addressForUprn _ trackingId => some trackingId
  | bruteForce _ => none
  | vehicleLookup _ trackingId _ => some trackingId
  | dispose _ trackingId _ => some trackingId

/-- The call carries no other tracking id. -/
def Carries (trackingId : String) (call : ServiceCall) : Prop :=
  ∀ carried ∈ call.trackingId?, carried = trackingId

theorem carries_of_eq {trackingId : String} {call : ServiceCall}
    (h : call.trackingId? = some trackingId) : call.Carries trackingId := by
  intro carried hcarried
  exact Option.some.inj (hcarried.symm.trans h)

end ServiceCall

section Calls

open ServiceCall (Carries carries_of_eq)

variable {config : Config} {environment : Environment joda} {trackingId : String}
variable {data : ApplicationData}

theorem BusinessChooseYourAddress.fetchAddresses_carries (model : SetupTradeDetailsModel) :
    (fetchAddresses environment model trackingId).Spec (Carries trackingId) fun _ => True :=
  .call (carries_of_eq rfl) (Returns.trivial _)

theorem BusinessChooseYourAddress.present_carries :
    (present environment (.ofData trackingId data)).Spec (Carries trackingId) fun _ => True := by
  simp only [present, getModel_ofData, trackingId_ofData, fill_ofData, lift_ok_bind]
  cases data .setupTradeDetails with
  | none => exact .pure trivial
  | some setup => exact .bind' (fetchAddresses_carries setup) fun addresses => .pure trivial

theorem BusinessChooseYourAddress.submit_carries (form : Form BusinessChooseYourAddressModel) :
    (submit environment (.ofData trackingId data) form).Spec (Carries trackingId)
      fun _ => True := by
  simp only [submit, getModel_ofData, trackingId_ofData, lift_ok_bind]
  cases form.valid with
  | none =>
      cases data .setupTradeDetails with
      | none => exact .pure trivial
      | some setup => exact .bind' (fetchAddresses_carries setup) fun addresses => .pure trivial
  | some validForm =>
      cases data .setupTradeDetails with
      | none => exact .pure trivial
      | some setup =>
          refine .bind' (.call (carries_of_eq rfl) (Returns.trivial _)) fun address => ?_
          cases address with
          | none => exact .pure trivial
          | some address => exact .pure trivial

theorem VehicleLookup.callBruteForce_carries (vrm : String) :
    (callBruteForce config environment vrm).Spec (Carries trackingId) fun _ => True := by
  refine ⟨?_, Returns.trivial _⟩
  intro call hcall
  rw [callBruteForce] at hcall
  split at hcall
  · obtain rfl := List.mem_singleton.mp hcall
    rintro carried ⟨⟩
  · exact absurd hcall List.not_mem_nil

theorem VehicleLookup.submit_carries (form : Form VehicleLookupFormModel) :
    (submit config environment (.ofData trackingId data) form).Spec (Carries trackingId)
      fun _ => True := by
  rw [submit]
  cases form.valid with
  | none => exact .ofExcept (Returns.trivial _)
  | some validForm =>
      refine .recover (.bind' (callBruteForce_carries _) fun viewModel => ?_) fun _ => trivial
      split
      · simp only [lookupVehicleResult, getModel_ofData, trackingId_ofData, lift_ok_bind]
        refine .recover (.bind' (.call (carries_of_eq rfl) (Returns.trivial _)) ?_)
          fun _ => trivial
        exact fun answer => .pure trivial
      · exact .pure trivial

theorem Dispose.submit_carries (form : Form DisposeFormModel) :
    (submit environment (.ofData trackingId data) form).Spec (Carries trackingId)
      fun _ => True := by
  rw [submit]
  cases form.valid with
  | none => exact .ofExcept (Returns.trivial _)
  | some validForm =>
      refine .bind' (.lift (Returns.trivial _)) fun flag => ?_
      cases flag with
      | some flag => exact .pure trivial
      | none =>
          simp only [trackingId_ofData, lift_ok_bind, disposeAction, getModel_ofData]
          split
          · refine .bind' (.lift (Returns.trivial _)) fun disposal => .recover ?_ fun _ => trivial
            exact .bind' (.call (carries_of_eq rfl) (Returns.trivial _)) fun answer =>
              .lift (Returns.trivial _)
          · exact .pure trivial

/-- An action calls services with the tracking id of the session only. -/
theorem handle_carries (request : Request) :
    (handle config environment (.ofData trackingId data) request).Spec (Carries trackingId)
      fun _ => True := by
  have haction : ∀ result, (action result).Spec (Carries trackingId) fun _ => True :=
    fun result => .ofExcept (Returns.trivial _)
  cases request with
  | businessChooseYourAddressPresent => exact .map BusinessChooseYourAddress.present_carries
  | businessChooseYourAddressSubmit form =>
      exact .map (BusinessChooseYourAddress.submit_carries form)
  | vehicleLookupSubmit form => exact .map (VehicleLookup.submit_carries form)
  | disposeSubmit form => exact .map (Dispose.submit_carries form)
  | errorSubmit => exact ⟨fun _ hcall => absurd hcall List.not_mem_nil, Returns.trivial _⟩
  | _ => exact haction _

end Calls

/-! ### Lines that are logged -/

namespace AccessLoggingFilter

variable {C α : Type} {texts : JdkTexts} {header : α → ResponseHeader} {requestTimestamp : ℤ}
variable {filter : LoggedRequest → Effects.Outcome C Throwable α} {requestHeader : LoggedRequest}
variable {calls : List C}

/-- The path is one of those that no line is logged for. -/
def Skipped (uri : Uri) : Prop :=
  ∃ path ∈ uri.getPath, path ∈ NonLoggingUrls

instance (uri : Uri) : Decidable (Skipped uri) :=
  inferInstanceAs (Decidable (∃ path ∈ uri.getPath, path ∈ NonLoggingUrls))

/-- The line of the result that was given is logged, unless the path is skipped. -/
theorem apply_of_parse {result : α} {uri : Uri}
    (h : filter requestHeader = ⟨calls, .ok result⟩)
    (hparse : Uri.parse requestHeader.uri.toList = some uri) :
    apply texts header requestTimestamp filter requestHeader =
      ⟨calls.map .inl ++ (if Skipped uri then []
        else [ClfEntryBuilder.clfEntry texts requestTimestamp requestHeader
          (header result)]).map .inr, .ok result⟩ := by
  have hnew : newUri texts requestHeader.uri = .ok uri := by rw [newUri, hparse]
  have hskipped : (uri.getPath.all fun path => !NonLoggingUrls.contains path) = true ↔
      ¬ Skipped uri := by
    rw [Skipped]
    cases uri.getPath <;> simp
  rw [apply, h]
  simp only [Effects.Outcome.mk_ok_bind, hnew, Effects.Outcome.lift_ok_bind, hskipped]
  by_cases huri : Skipped uri
  · rw [if_pos huri, if_neg (not_not_intro huri)]
    rfl
  · rw [if_neg huri, if_pos huri]
    rfl

end AccessLoggingFilter

/-- What the log says of a request. The error strategy logs its answer with the cookies that the
browser sent, and the filter logs a result with those of the session. -/
inductive Composition.Logged (composition : Composition) (exchange : HttpExchange joda)
    (request requestCookies : Jar) : List String → Prop
  | raised {cause : Throwable}
      (h : (composition.filtered exchange request).result = .error cause) :
      Logged composition exchange request requestCookies
        [ClfEntryBuilder.clfEntry composition.texts exchange.errorTimestamp
          (exchange.http.logged request)
          (composition.responseHeader (composition.answer exchange request))]
  | skipped {uri : Uri} (hparse : Uri.parse exchange.http.uri.toList = some uri)
      (h : AccessLoggingFilter.Skipped uri) :
      Logged composition exchange request requestCookies []
  | returned {result : SimpleResult HttpContent}
      (h : (composition.checked exchange (exchange.http.logged requestCookies)).result =
        .ok result)
      (hcontent : (composition.answer exchange request).content = result.content) :
      Logged composition exchange request requestCookies
        [ClfEntryBuilder.clfEntry composition.texts exchange.requestTimestamp
          (exchange.http.logged requestCookies) (composition.responseHeader result)]

theorem filterMap_getRight? {C : Type} (calls : List C) (lines : List String) :
    (calls.map Sum.inl ++ lines.map Sum.inr).filterMap Sum.getRight? = lines := by
  rw [List.filterMap_append, List.filterMap_map, List.filterMap_map]
  simp [Function.comp_def]

section Lines

open AccessLoggingFilter (Skipped)

variable {composition : Composition} {exchange : HttpExchange joda}
variable {request requestCookies : Jar} {cookies : List Cookie} {calls : List ServiceCall}

theorem Composition.lines_of_error {cause : Throwable}
    (hcalls : (composition.filtered exchange request).calls = calls.map .inl)
    (hresult : (composition.filtered exchange request).result = .error cause) :
    composition.lines exchange request =
      [ClfEntryBuilder.clfEntry composition.texts exchange.errorTimestamp
        (exchange.http.logged request)
        (composition.responseHeader (composition.answer exchange request))] := by
  rw [Composition.lines, Composition.answer, Composition.served, hresult, hcalls]
  exact filterMap_getRight? calls [_]

theorem Composition.lines_of_ok {lines : List String} {result : SimpleResult HttpContent}
    (hcalls : (composition.filtered exchange request).calls =
      calls.map .inl ++ lines.map .inr)
    (hresult : (composition.filtered exchange request).result = .ok result) :
    composition.lines exchange request = lines := by
  rw [Composition.lines, Composition.served, hresult, hcalls]
  exact filterMap_getRight? calls lines

/-- What is behind the log is passed on with a line, or lost without one. -/
theorem Composition.logging_cases (composition : Composition) (exchange : HttpExchange joda)
    (requestCookies : Jar) :
    ∃ calls : List ServiceCall,
      (∃ cause, composition.logging exchange requestCookies =
        ⟨calls.map .inl, .error cause⟩) ∨
      ∃ result uri, (composition.checked exchange (exchange.http.logged requestCookies)).result =
          .ok result ∧
        Uri.parse exchange.http.uri.toList = some uri ∧
        composition.logging exchange requestCookies =
          ⟨calls.map .inl ++ (if Skipped uri then []
            else [ClfEntryBuilder.clfEntry composition.texts exchange.requestTimestamp
              (exchange.http.logged requestCookies)
              (composition.responseHeader result)]).map .inr, .ok result⟩ := by
  cases hchecked : composition.checked exchange (exchange.http.logged requestCookies) with
  | mk calls result =>
      refine ⟨calls, ?_⟩
      cases result with
      | error cause => exact .inl ⟨cause, AccessLoggingFilter.apply_of_error hchecked⟩
      | ok result =>
          cases hparse : Uri.parse exchange.http.uri.toList with
          | none =>
              refine .inl ⟨_, AccessLoggingFilter.apply_of_not_reference hchecked fun huri => ?_⟩
              have hsome : (Uri.parse exchange.http.uri.toList).isSome = true :=
                Uri.isSome_parse.mpr huri
              rw [hparse] at hsome
              cases hsome
          | some uri =>
              exact .inr ⟨result, uri, rfl, rfl,
                AccessLoggingFilter.apply_of_parse hchecked hparse⟩

/-- A request that is admitted to a session is logged. -/
theorem Passes.logged
    (h : Passes composition.sessions exchange.draw request requestCookies cookies) :
    composition.Logged exchange request requestCookies (composition.lines exchange request) := by
  obtain ⟨calls, ⟨cause, hlogging⟩ | ⟨result, uri, hresult, hparse, hlogging⟩⟩ :=
    composition.logging_cases exchange requestCookies
  · obtain ⟨hcalls, hraised⟩ := h.filtered_of_error hlogging
    rw [Composition.lines_of_error hcalls hraised]
    exact .raised hraised
  · obtain ⟨hcalls, answer, hanswer, hcontent, -⟩ := h.filtered_of_ok hlogging
    rw [Composition.lines_of_ok hcalls hanswer]
    by_cases huri : Skipped uri
    · rw [if_pos huri]
      exact .skipped hparse huri
    · rw [if_neg huri]
      refine .returned hresult ?_
      rw [Composition.answer, Composition.served, hanswer]
      exact hcontent

end Lines

/-! ### Where services are called -/

namespace Routes

variable {readers : PlayReaders} {clocks : FormClocks joda} {path : String} {request : Request}

theorem plain_of_mem_fixed {referer : Option String} {data : FormData}
    {route : String × String × Request} (h : route ∈ fixed clocks referer data) :
    route.2.1.toList.head? = some '/' ∧ ¬ ['/', '/'] <+: route.2.1.toList ∧
      '#' ∉ route.2.1.toList ∧ '%' ∉ route.2.1.toList := by
  revert route
  simp only [fixed, List.forall_mem_cons]
  repeat' apply And.intro
  all_goals decide +kernel

/-- Actions that call services are found in the table. -/
theorem mem_fixed_of_call {header : Csrf.RequestHeader} {body : Csrf.Body} {config : Config}
    {environment : Environment joda} {requestCookies : RequestCookies} {call : ServiceCall}
    (h : handler readers clocks header path body = .ok (.wizard request))
    (hcall : call ∈ (handle config environment requestCookies request).calls) :
    ∃ data, (header.method, path, request) ∈ fixed clocks header.referer data := by
  obtain ⟨data, -, hrequest⟩ := wizardRequest_of_handler h
  rcases wizardRequest_cases hrequest with hroute | ⟨_, rfl, -⟩ | ⟨_, rfl, -⟩ | ⟨_, rfl, -⟩
  · exact ⟨data, hroute⟩
  · exact absurd hcall List.not_mem_nil
  · exact absurd hcall List.not_mem_nil
  · exact absurd hcall List.not_mem_nil

end Routes

/-- A plain path is what the URI of a request is read for. -/
theorem HttpRequest.getPath_of_plain {http : HttpRequest} {uri : Uri}
    (hslash : http.path.toList.head? = some '/') (hnet : ¬ ['/', '/'] <+: http.path.toList)
    (hfragment : '#' ∉ http.path.toList) (hescape : '%' ∉ http.path.toList)
    (hparse : Uri.parse http.uri.toList = some uri) : uri.getPath = some http.path := by
  have hpath : http.path.toList = Uri.upTo ['?'] http.uri.toList := by
    simp [HttpRequest.path, Text.before, Uri.upTo, bne, beq_eq_decide]
  have htext : http.uri.toList = http.path.toList ++ Uri.beyond ['?'] http.uri.toList := by
    rw [hpath, Uri.upTo_append_beyond]
  have hstarts := Uri.startsIn_beyond ['?'] http.uri.toList
  have hquery : '?' ∉ http.path.toList := by
    rw [hpath]
    exact fun hmem => Uri.not_mem_of_mem_upTo hmem List.mem_cons_self
  generalize Uri.beyond ['?'] http.uri.toList = rest at htext hstarts
  have hread : uri.path = some http.path.toList := by
    obtain ⟨segments, hsegments⟩ := List.head?_eq_some_iff.mp hslash
    have hhead : http.uri.toList.head? = some '/' := by rw [htext, hsegments]; rfl
    have hplain : ¬ ['/', '/'] <+: http.uri.toList := by
      rw [htext, hsegments]
      rw [hsegments] at hnet
      rintro ⟨tail, htail⟩
      cases segments with
      | nil =>
          have hrest : rest = '/' :: tail := (List.cons.inj htail).2.symm
          rw [hrest] at hstarts
          exact absurd (hstarts '/' rfl) (by decide)
      | cons c segments =>
          obtain rfl : '/' = c := (List.cons.inj (List.cons.inj htail).2).1
          exact hnet ⟨segments, rfl⟩
    rw [Uri.path_of_parse hhead hplain hparse, htext, Uri.upTo_append]
    · intro c hc hmem
      rcases List.mem_cons.mp hmem with rfl | hmem
      · exact hquery hc
      · rw [List.mem_singleton.mp hmem] at hc
        exact hfragment hc
    · exact fun c hc => List.mem_cons.mpr (.inl (List.mem_singleton.mp (hstarts c hc)))
  rw [Uri.getPath, hread, Option.map_some, Uri.decodeFrom_of_not_mem hescape, String.ofList_toList]

/-! ### Every request -/

section Traffic

open AccessLoggingFilter (Skipped)
open Csrf (InSession)

variable {composition : Composition} {draws : Set SessionDraw}
variable {exchange : HttpExchange joda} {request requestCookies : Jar} {cookies : List Cookie}
variable {sessionSecretKey trackingId : String}

/-- Of a path that is skipped no service is called. -/
theorem AdmittedIn.calls_of_skipped
    (h : AdmittedIn composition.sessions draws exchange.draw request sessionSecretKey trackingId
      requestCookies cookies) (hapart : composition.sessions.DrawsApart draws)
    (hlet : ∀ handler, composition.handlerFor exchange requestCookies = .ok handler →
      ∃ tags, Routes.handler composition.readers exchange.clocks
        { exchange.http.header requestCookies with tags := tags } exchange.http.path
        exchange.http.body = .ok handler)
    {uri : Uri} (hparse : Uri.parse exchange.http.uri.toList = some uri) (hskipped : Skipped uri) :
    composition.calls exchange request = [] := by
  rw [(h.answersWith hapart).calls_eq, List.eq_nil_iff_forall_not_mem]
  intro call hcall
  obtain ⟨action, hhandler, hcall⟩ := mem_calls_reply hcall
  obtain ⟨tags, hhandler⟩ := hlet _ hhandler
  obtain ⟨data, hroute⟩ := Routes.mem_fixed_of_call hhandler hcall
  obtain ⟨hslash, hnet, hfragment, hescape⟩ := Routes.plain_of_mem_fixed hroute
  obtain ⟨path, hpath, hskip⟩ := hskipped
  have hget := HttpRequest.getPath_of_plain hslash hnet hfragment hescape hparse
  obtain rfl : exchange.http.path = path := Option.some.inj (hget.symm.trans hpath)
  exact (Routes.not_asset_of_mem_fixed hroute).2.1 (List.mem_singleton.mp hskip)

/-- The tracking id of an encrypted session is in the cookie that the log reads. -/
theorem get_trackingId_of_getSession {factory : EncryptedClientSideSessionFactory} {jar : Jar}
    {session : ClientSideSession} (h : factory.getSession jar = .ok session) :
    jar.get trackingIdCookieName = some session.trackingId := by
  rw [EncryptedClientSideSessionFactory.getSession] at h
  cases hvalidate : factory.validateSessionCookies jar with
  | error cause =>
      rw [hvalidate] at h
      cases h
  | ok found =>
      rw [hvalidate] at h
      cases found with
      | none => cases h
      | some pair =>
          cases h
          cases ht : jar.get trackingIdCookieName <;>
            cases hs : jar.get factory.sessionSecretKeySuffixCookieName
          case some.some trackingId suffix =>
            obtain ⟨sessionSecretKey, hfound, -⟩ :=
              (factory.validateSessionCookies_eq_ok_iff ht hs).mp hvalidate
            cases hfound
            rfl
          all_goals
            simp only [EncryptedClientSideSessionFactory.validateSessionCookies, ht, hs]
              at hvalidate
            cases hvalidate

/-- However requests overtake each other, services are called for a request with the tracking id
of its session only, and if one is called then a line is logged. The line of a result reads the
cookies of the session, which hold the tracking id if sessions are encrypted. -/
theorem http_inFlight_traces (composition : Composition) {jar : Jar} (hclean : Clean jar)
    (draws : Set SessionDraw) (exchanges : Set (HttpExchange joda))
    (hassumed : composition.Assumptions draws exchanges)
    (s : Snapshots.Network Jar (List Cookie) (HttpServed joda))
    (hreach : Snapshots.Reachable (composition.traffic exchanges) jar s)
    (before : List (HttpServed joda)) (entry : HttpServed joda) (after : List (HttpServed joda))
    (hserved : s.served = before ++ entry :: after) :
    ∃ requestCookies trackingId,
      composition.sessions.admitted entry.exchange.draw entry.request = .ok requestCookies ∧
      InSession composition.csrf (entry.exchange.http.header requestCookies) trackingId ∧
      (∀ call ∈ composition.calls entry.exchange entry.request, call.Carries trackingId) ∧
      composition.Logged entry.exchange entry.request requestCookies
        (composition.lines entry.exchange entry.request) ∧
      (composition.calls entry.exchange entry.request ≠ [] →
        composition.lines entry.exchange entry.request ≠ []) ∧
      ∀ factory, composition.sessions = .encrypted factory →
        requestCookies.get trackingIdCookieName = some trackingId := by
  have hwell : HttpServedWell composition draws exchanges after entry :=
    .of_reachable hassumed hclean hreach hserved
  obtain ⟨sessionSecretKey, trackingId, requestCookies, cookies, hadmitted⟩ :=
    hassumed.apart.exists_admittedIn (hassumed.draw_mem _ hwell.mem_exchanges) hwell.request.whole
  obtain ⟨data, hcoded, -⟩ := hwell.request.coded sessionSecretKey hadmitted.mem_secrets
  have hlogged := hadmitted.passes.logged
  refine ⟨requestCookies, trackingId, hadmitted.passes.admitted_eq, hadmitted.inSession, ?_,
    hlogged, ?_, ?_⟩
  · intro call hcall
    rw [(hadmitted.answersWith hassumed.apart).calls_eq] at hcall
    obtain ⟨action, -, hcall⟩ := mem_calls_reply hcall
    rw [Sessions.outcome, ofJar_eq_ofData hadmitted.found (hadmitted.coded hcoded)] at hcall
    exact (handle_carries action).calls call hcall
  · intro hcalls hlines
    rw [hlines] at hlogged
    cases hlogged with
    | skipped hparse hskipped =>
        refine hcalls (hadmitted.calls_of_skipped hassumed.apart ?_ hparse hskipped)
        intro handler hhandler
        rcases hadmitted.handlerFor hassumed hwell.mem_exchanges with
          ⟨-, tags, htags⟩ | ⟨-, cause, -, hcause⟩
        · exact ⟨tags, htags.symm.trans hhandler⟩
        · rw [hcause] at hhandler
          cases hhandler
  · intro factory hfactory
    obtain ⟨session, hsession, -, rfl⟩ := hadmitted.found
    rw [hfactory] at hsession
    exact get_trackingId_of_getSession hsession

end Traffic

section Dealer

open Csrf (InSession)

/-- A disposal that was overtaken by a lookup is traced. -/
theorem http_inFlight_traces_disposal :
    ∃ (jar : Jar) (served : List (HttpServed utc)) (requestCookies : Jar) (trackingId : String),
      served.map HttpServed.exchange = (formsUpToLookup.map Prod.fst).reverse ∧
      clearTextComposition.sessions.admitted sendsDisposal.draw jar = .ok requestCookies ∧
      InSession clearTextComposition.csrf (sendsDisposal.http.header requestCookies) trackingId ∧
      (∀ call ∈ clearTextComposition.calls sendsDisposal jar, call.Carries trackingId) ∧
      clearTextComposition.Logged sendsDisposal jar requestCookies
        (clearTextComposition.lines sendsDisposal jar) ∧
      clearTextComposition.lines sendsDisposal jar ≠ [] ∧
      ∀ factory, clearTextComposition.sessions = .encrypted factory →
        requestCookies.get trackingIdCookieName = some trackingId := by
  obtain ⟨jar, served, hreach, hmap, disposal, _, answer, hcall⟩ := formsUpToLookup_reachable
  obtain ⟨requestCookies, trackingId, hadmitted, hsession, hcarries, hlogged, hlines, hcookie⟩ :=
    http_inFlight_traces clearTextComposition (fun _ _ => rfl) {zeroDraw} dealerForms
      dealerForms_assumptions _ (overtaken_reachable sendsDisposal_mem sendsLookup_mem hreach) []
      ⟨jar, sendsDisposal⟩ (⟨jar, sendsLookup⟩ :: served) rfl
  exact ⟨jar, served, requestCookies, trackingId, hmap, hadmitted, hsession, hcarries, hlogged,
    hlines (List.ne_nil_of_mem hcall), hcookie⟩

end Dealer

end VehiclesOnline
