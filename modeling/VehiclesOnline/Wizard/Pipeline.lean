import VehiclesOnline.Csrf.Admission
import VehiclesOnline.Wizard.AccessLog
import VehiclesOnline.Wizard.InFlight
import VehiclesOnline.Wizard.Routing

/-! # Behind the filters

The way of a request: the filter that creates sessions, the access log, the check of the token,
the router and the action, and the error strategy around all of them. -/

namespace VehiclesOnline

open AccessLoggingFilter (Logging)
open Csrf (Body LetIn Refusal TokenDraw Unforged delimiter inspectedBytes tokenOfBody)
open Uri (Reference)

variable {joda : Joda}

/-- What the browser is shown. -/
inductive HttpContent
  | wizard (content : Content)
  | page (page : StaticPage)

def SimpleResult.map {α β : Type} (f : α → β) (result : SimpleResult α) : SimpleResult β where
  content := f result.content
  setCookies := result.setCookies

/-- A request, with what the services answer, what the clocks say and what the server draws while
it is handled. -/
structure HttpExchange (joda : Joda) where
  http : HttpRequest
  environment : Environment joda
  clocks : FormClocks joda
  draw : SessionDraw
  random : CacheKey → SecureRandomBytes
  tokenDraw : TokenDraw
  requestTimestamp : ℤ
  errorTimestamp : ℤ

/-- The exchange, as the action of the wizard sees it. -/
def HttpExchange.handling (exchange : HttpExchange joda) (request : Request) : Exchange joda where
  request := request
  environment := exchange.environment
  draw := exchange.draw
  random := exchange.random

def HttpRequest.logged (http : HttpRequest) (cookies : Jar) : LoggedRequest where
  method := http.method
  uri := http.uri
  version := http.version
  remoteAddress := http.remoteAddress
  headers := http.headers
  cookies := cookies

/-- What the application is put together from. -/
structure Composition where
  sessions : Sessions
  config : Config
  preventionEnabled : Bool := true
  aesEncryption : CookieEncryption
  crypto : Csrf.TokenSigner
  tolerantFormUrlEncoded : Csrf.RequestHeader → Body → Option Csrf.FormData
  readers : PlayReaders
  texts : JdkTexts
  responseHeader : SimpleResult HttpContent → ResponseHeader

/-- `EnsureSessionCreatedFilter.apply`, around what calls services and logs. -/
def ensureSessionCreated {C α : Type} (sessionFactory : ClientSideSessionFactory)
    (draw : SessionDraw) (nextFilter : Jar → Logging C (SimpleResult α)) (requestCookies : Jar) :
    Logging C (SimpleResult α) := do
  match ← sessionFactory.newSessionCookiesIfNeeded draw requestCookies with
  | some cookies => do
      let simpleResult ← nextFilter (requestCookies.merge cookies)
      return simpleResult.withCookies cookies
  | none => nextFilter requestCookies

namespace Composition

variable (composition : Composition)

/-- The token check shares the factory of the sessions. -/
def csrf : Csrf.CsrfPrevention where
  preventionEnabled := composition.preventionEnabled
  clientSideSessionFactory := composition.sessions.factory
  aesEncryption := composition.aesEncryption
  crypto := composition.crypto
  tolerantFormUrlEncoded := composition.tolerantFormUrlEncoded

/-- The handler that the token check and the router find for a request. -/
def handlerFor (exchange : HttpExchange joda) (requestCookies : Jar) :
    Except Throwable Handler := do
  let (header, body) ← Csrf.apply composition.csrf exchange.tokenDraw Csrf.passOn
    (exchange.http.header requestCookies) exchange.http.body
  Routes.handler composition.readers exchange.clocks header exchange.http.path body

def handle (exchange : HttpExchange joda) (requestCookies : Jar) :
    Handler → Outcome (SimpleResult HttpContent)
  | .page page => pure { content := .page page }
  | .wizard request =>
      ({ calls := (composition.sessions.outcome composition.config (exchange.handling request)
          requestCookies).calls
         result := composition.sessions.runAction composition.config (exchange.handling request)
          requestCookies } : Outcome (SimpleResult Content)).map (SimpleResult.map .wizard)

/-- What is behind the access log. -/
def checked (exchange : HttpExchange joda) (request : LoggedRequest) :
    Outcome (SimpleResult HttpContent) := do
  let handler ← composition.handlerFor exchange request.cookies
  composition.handle exchange request.cookies handler

def logging (exchange : HttpExchange joda) (requestCookies : Jar) :
    Logging ServiceCall (SimpleResult HttpContent) :=
  AccessLoggingFilter.apply composition.texts composition.responseHeader exchange.requestTimestamp
    (composition.checked exchange) (exchange.http.logged requestCookies)

def filtered (exchange : HttpExchange joda) (request : Jar) :
    Logging ServiceCall (SimpleResult HttpContent) :=
  ensureSessionCreated composition.sessions.factory exchange.draw (composition.logging exchange)
    request

/-- The error strategy answers in place of what raised, and logs a line of its own. -/
def served (exchange : HttpExchange joda) (request : Jar) :
    SimpleResult HttpContent × List (ServiceCall ⊕ String) :=
  let outcome := composition.filtered exchange request
  match outcome.result with
  | .ok result => (result, outcome.calls)
  | .error cause =>
      let result := (redirecting (errorStrategy request cause)).map .wizard
      (result, outcome.calls ++ [.inr (ClfEntryBuilder.clfEntry composition.texts
        exchange.errorTimestamp (exchange.http.logged request)
          (composition.responseHeader result))])

def answer (exchange : HttpExchange joda) (request : Jar) : SimpleResult HttpContent :=
  (composition.served exchange request).1

/-- The services that are called. -/
def calls (exchange : HttpExchange joda) (request : Jar) : List ServiceCall :=
  (composition.served exchange request).2.filterMap Sum.getLeft?

/-- The lines that are logged. -/
def lines (exchange : HttpExchange joda) (request : Jar) : List String :=
  (composition.served exchange request).2.filterMap Sum.getRight?

end Composition

/-! ### The filter of the sessions -/

section Filter

variable {C α : Type} {draw : SessionDraw} {nextFilter : Jar → Logging C (SimpleResult α)}

/-- The calls and the lines apart, it is the filter of the sessions. -/
theorem result_ensureSessionCreated (sessionFactory : ClientSideSessionFactory)
    (requestCookies : Jar) :
    (ensureSessionCreated sessionFactory draw nextFilter requestCookies).result =
      ensureSessionCreatedFilter sessionFactory draw (fun jar => (nextFilter jar).result)
        requestCookies := by
  rw [ensureSessionCreated, ensureSessionCreatedFilter, Effects.Outcome.result_bind]
  cases sessionFactory.newSessionCookiesIfNeeded draw requestCookies with
  | error cause => rfl
  | ok cookies =>
      cases cookies with
      | none => rfl
      | some cookies => exact Effects.Outcome.result_bind _ _

/-- Once a request is admitted, the calls and the lines are those behind the filter. -/
theorem Passes.calls_ensureSessionCreated {sessions : Sessions} {request requestCookies : Jar}
    {cookies : List Cookie} (h : Passes sessions draw request requestCookies cookies) :
    (ensureSessionCreated sessions.factory draw nextFilter request).calls =
      (nextFilter requestCookies).calls := by
  cases h with
  | unchanged h => simp only [ensureSessionCreated, h, Effects.Outcome.lift_ok_bind]
  | merged h =>
      simp only [ensureSessionCreated, h, Effects.Outcome.lift_ok_bind]
      generalize nextFilter (request.merge _) = outcome
      obtain ⟨calls, result⟩ := outcome
      cases result with
      | error cause => rfl
      | ok result => exact List.append_nil calls

end Filter

/-! ### What a request comes to -/

/-- What is shown, the services that are called, and the effect on the data of the session. -/
structure HttpReply where
  content : HttpContent
  calls : List ServiceCall := []
  effect : Effect := .changes []

/-- The error strategy answers, after the calls. -/
def HttpReply.ofError (cause : Throwable) (calls : List ServiceCall) : HttpReply where
  content := .wizard (errorResponse cause).content
  calls := calls
  effect := (errorResponse cause).effect

namespace Composition

variable (composition : Composition)

/-- The log passes a reply on, unless it cannot read the URI of the request. -/
def passedOn (exchange : HttpExchange joda) (reply : HttpReply) : HttpReply :=
  if (Uri.parse exchange.http.uri.toList).isSome then reply
  else .ofError ⟨.uriSyntaxException,
    some (composition.texts.uriSyntaxMessage exchange.http.uri)⟩ reply.calls

/-- What a request comes to, if this is what the check and the router make of it, and if the
actions of the wizard have these outcomes. -/
def reply (exchange : HttpExchange joda) (outcome : Request → Outcome Response) :
    Except Throwable Handler → HttpReply
  | .error cause => .ofError cause []
  | .ok (.page page) => composition.passedOn exchange { content := .page page }
  | .ok (.wizard request) =>
      match (outcome request).result with
      | .ok response =>
          composition.passedOn exchange
            { content := .wizard response.content
              calls := (outcome request).calls
              effect := response.effect }
      | .error cause => .ofError cause (outcome request).calls

end Composition

/-- The answer shows the content, makes the calls and sets cookies for the effect. -/
structure AnswersWith (composition : Composition) (coding : SessionCoding)
    (exchange : HttpExchange joda) (request requestCookies : Jar) (cookies : List Cookie)
    (reply : HttpReply) : Prop where
  content_eq : (composition.answer exchange request).content = reply.content
  calls_eq : composition.calls exchange request = reply.calls
  cookies : CookiesFor composition.sessions.kind coding request requestCookies cookies
    (composition.answer exchange request).setCookies reply.effect

theorem filterMap_getLeft? {C : Type} (calls : List C) (lines : List String) :
    (calls.map Sum.inl ++ lines.map Sum.inr).filterMap Sum.getLeft? = calls := by
  rw [List.filterMap_append, List.filterMap_map, List.filterMap_map]
  simp [Function.comp_def]

section Reply

variable {composition : Composition} {coding : SessionCoding} {exchange : HttpExchange joda}
variable {request requestCookies : Jar} {cookies : List Cookie} {calls : List ServiceCall}

theorem Passes.result_filtered
    (h : Passes composition.sessions exchange.draw request requestCookies cookies) :
    (composition.filtered exchange request).calls =
        (composition.logging exchange requestCookies).calls ∧
      (composition.filtered exchange request).result =
        ensureSessionCreatedFilter composition.sessions.factory exchange.draw
          (fun jar => (composition.logging exchange jar).result) request :=
  ⟨h.calls_ensureSessionCreated, result_ensureSessionCreated _ _⟩

theorem Passes.filtered_of_error
    (h : Passes composition.sessions exchange.draw request requestCookies cookies)
    {log : List (ServiceCall ⊕ String)} {cause : Throwable}
    (hlogging : composition.logging exchange requestCookies = ⟨log, .error cause⟩) :
    (composition.filtered exchange request).calls = log ∧
      (composition.filtered exchange request).result = .error cause := by
  obtain ⟨hcalls, hresult⟩ := h.result_filtered
  rw [hcalls, hresult, hlogging]
  exact ⟨rfl, h.filter_of_error (congrArg Effects.Outcome.result hlogging)⟩

theorem Passes.filtered_of_ok
    (h : Passes composition.sessions exchange.draw request requestCookies cookies)
    {log : List (ServiceCall ⊕ String)} {result : SimpleResult HttpContent}
    (hlogging : composition.logging exchange requestCookies = ⟨log, .ok result⟩) :
    (composition.filtered exchange request).calls = log ∧
      ∃ answer, (composition.filtered exchange request).result = .ok answer ∧
        answer.content = result.content ∧ ∀ jar : Jar, (jar.receive answer.setCookies).get =
          ((jar.receive result.setCookies).receive cookies).get := by
  obtain ⟨hcalls, hresult⟩ := h.result_filtered
  rw [hcalls, hresult]
  exact ⟨congrArg Effects.Outcome.calls hlogging,
    h.filter_of_ok (congrArg Effects.Outcome.result hlogging)⟩

/-- What is raised behind the filter of the sessions is left to the error strategy. -/
theorem Passes.served_of_error
    (h : Passes composition.sessions exchange.draw request requestCookies cookies)
    {cause : Throwable}
    (hlogging : composition.logging exchange requestCookies = ⟨calls.map .inl, .error cause⟩) :
    ∃ line, composition.served exchange request =
      ((redirecting (errorStrategy request cause)).map .wizard, calls.map .inl ++ [.inr line]) := by
  obtain ⟨hcalls, hresult⟩ := h.filtered_of_error hlogging
  rw [Composition.served, hresult, hcalls]
  exact ⟨_, rfl⟩

theorem Passes.answers_of_error
    (h : Passes composition.sessions exchange.draw request requestCookies cookies)
    {cause : Throwable}
    (hlogging : composition.logging exchange requestCookies = ⟨calls.map .inl, .error cause⟩) :
    AnswersWith composition coding exchange request requestCookies cookies
      (.ofError cause calls) := by
  obtain ⟨line, hserved⟩ := h.served_of_error hlogging
  refine ⟨?_, ?_, ?_⟩
  · rw [Composition.answer, hserved]
    exact congrArg HttpContent.wizard (redirecting_errorStrategy_content request cause)
  · rw [Composition.calls, hserved]
    exact filterMap_getLeft? calls [line]
  · rw [Composition.answer, hserved]
    exact .raised rfl

/-- What is returned behind the log is passed on, or lost. -/
theorem Passes.answers_of_ok
    (h : Passes composition.sessions exchange.draw request requestCookies cookies)
    {result : SimpleResult HttpContent} {effect : Effect}
    (hchecked : composition.checked exchange (exchange.http.logged requestCookies) =
      ⟨calls, .ok result⟩)
    (hcookies : ∀ setCookies : List Cookie,
      (∀ jar : Jar, (jar.receive setCookies).get =
        ((jar.receive result.setCookies).receive cookies).get) →
      CookiesFor composition.sessions.kind coding request requestCookies cookies setCookies
        effect) :
    AnswersWith composition coding exchange request requestCookies cookies
      (composition.passedOn exchange
        { content := result.content, calls := calls, effect := effect }) := by
  rw [Composition.passedOn]
  by_cases huri : Reference exchange.http.uri.toList
  · rw [if_pos (Uri.isSome_parse.mpr huri)]
    obtain ⟨lines, hlogging⟩ :
        ∃ lines : List String, composition.logging exchange requestCookies =
          ⟨calls.map Sum.inl ++ lines.map Sum.inr, .ok result⟩ :=
      AccessLoggingFilter.apply_of_reference hchecked huri
    obtain ⟨hcalls, answer, hanswer, hcontent, hget⟩ := h.filtered_of_ok hlogging
    refine ⟨?_, ?_, ?_⟩
    · rw [Composition.answer, Composition.served, hanswer]
      exact hcontent
    · rw [Composition.calls, Composition.served, hanswer, hcalls]
      exact filterMap_getLeft? calls lines
    · rw [Composition.answer, Composition.served, hanswer]
      exact hcookies _ hget
  · rw [if_neg fun hparse => huri (Uri.isSome_parse.mp hparse)]
    exact h.answers_of_error (AccessLoggingFilter.apply_of_not_reference hchecked huri)

theorem checked_of_error {cause : Throwable}
    (h : composition.handlerFor exchange requestCookies = .error cause) :
    composition.checked exchange (exchange.http.logged requestCookies) = ⟨[], .error cause⟩ := by
  have hcookies : (exchange.http.logged requestCookies).cookies = requestCookies := rfl
  rw [Composition.checked, hcookies, h, Effects.Outcome.lift_error_bind]

theorem checked_of_ok {handler : Handler}
    (h : composition.handlerFor exchange requestCookies = .ok handler) :
    composition.checked exchange (exchange.http.logged requestCookies) =
      composition.handle exchange requestCookies handler := by
  have hcookies : (exchange.http.logged requestCookies).cookies = requestCookies := rfl
  rw [Composition.checked, hcookies, h, Effects.Outcome.lift_ok_bind]

/-- A request that is admitted to a session is answered as its handler tells. -/
theorem AdmittedIn.answersWith {draws : Set SessionDraw} {sessionSecretKey trackingId : String}
    (h : AdmittedIn composition.sessions draws exchange.draw request sessionSecretKey trackingId
      requestCookies cookies) (hapart : composition.sessions.DrawsApart draws) :
    AnswersWith composition (composition.sessions.codingOf sessionSecretKey) exchange request
      requestCookies cookies
      (composition.reply exchange
        (fun request => composition.sessions.outcome composition.config
          (exchange.handling request) requestCookies)
        (composition.handlerFor exchange requestCookies)) := by
  have hlogging : ∀ {calls cause},
      composition.checked exchange (exchange.http.logged requestCookies) = ⟨calls, .error cause⟩ →
      composition.logging exchange requestCookies = ⟨calls.map .inl, .error cause⟩ :=
    AccessLoggingFilter.apply_of_error
  cases hhandler : composition.handlerFor exchange requestCookies with
  | error cause => exact h.passes.answers_of_error (hlogging (checked_of_error hhandler))
  | ok handler =>
      have hchecked := checked_of_ok hhandler
      cases handler with
      | page page =>
          refine h.passes.answers_of_ok hchecked fun setCookies hget => ?_
          have hbuilds : Builds composition.sessions.kind
              (composition.sessions.codingOf sessionSecretKey) { content := .redirect .index }
              { content := .redirect .index } :=
            ⟨rfl, fun _ _ hcoded => hcoded, fun _ hc => absurd hc List.not_mem_nil⟩
          exact .built hbuilds hget
      | wizard action =>
          rw [Composition.handle, Sessions.runAction] at hchecked
          rw [Composition.reply]
          cases hresult : (composition.sessions.outcome composition.config
              (exchange.handling action) requestCookies).result with
          | error cause =>
              rw [hresult] at hchecked
              exact h.passes.answers_of_error (hlogging hchecked)
          | ok response =>
              obtain ⟨result, hbuild, hcontent, hcookies⟩ := h.build hapart exchange.random response
              have hrandom : (exchange.handling action).random = exchange.random := rfl
              simp only [hresult, hrandom, bind, Except.bind, hbuild] at hchecked
              have hanswers := h.passes.answers_of_ok hchecked hcookies
              rwa [SimpleResult.map, hcontent] at hanswers

/-- An action whose result is not lost is answered as the wizard answers it. -/
theorem AdmittedIn.answer_handle {draws : Set SessionDraw} {sessionSecretKey trackingId : String}
    (h : AdmittedIn composition.sessions draws exchange.draw request sessionSecretKey trackingId
      requestCookies cookies) (hapart : composition.sessions.DrawsApart draws)
    {data : ApplicationData}
    (hcoded : Coded (composition.sessions.codingOf sessionSecretKey) request data)
    {action : Request}
    (hhandler : composition.handlerFor exchange requestCookies = .ok (.wizard action))
    (huri : Reference exchange.http.uri.toList) :
    (composition.answer exchange request).content =
        .wizard (settle (VehiclesOnline.handle composition.config exchange.environment
          (.ofData trackingId data) action).result).content ∧
      composition.calls exchange request =
        (VehiclesOnline.handle composition.config exchange.environment (.ofData trackingId data)
          action).calls := by
  obtain ⟨hcontent, hcalls, -⟩ := h.answersWith hapart
  have houtcome : composition.sessions.outcome composition.config (exchange.handling action)
      requestCookies =
      VehiclesOnline.handle composition.config exchange.environment (.ofData trackingId data)
        action := by
    rw [Sessions.outcome, ofJar_eq_ofData h.found (h.coded hcoded)]
    rfl
  rw [hhandler, Composition.reply, houtcome] at hcontent hcalls
  have hpassed : ∀ reply, composition.passedOn exchange reply = reply := fun reply =>
    if_pos (Uri.isSome_parse.mpr huri)
  rw [hcontent, hcalls]
  cases (VehiclesOnline.handle composition.config exchange.environment (.ofData trackingId data)
      action).result with
  | error cause => exact ⟨rfl, rfl⟩
  | ok response =>
      exact ⟨congrArg HttpReply.content (hpassed _), congrArg HttpReply.calls (hpassed _)⟩

theorem Passes.filter_map {α β : Type} {sessions : Sessions} {draw : SessionDraw} {f : α → β}
    {nextFilter : Jar → Except Throwable (SimpleResult α)}
    {nextFilter' : Jar → Except Throwable (SimpleResult β)}
    (h : Passes sessions draw request requestCookies cookies)
    (hnext : nextFilter' requestCookies = (nextFilter requestCookies).map (SimpleResult.map f)) :
    ensureSessionCreatedFilter sessions.factory draw nextFilter' request =
      (ensureSessionCreatedFilter sessions.factory draw nextFilter request).map
        (SimpleResult.map f) := by
  cases h with
  | unchanged h => simp only [ensureSessionCreatedFilter, h, hnext, bind, Except.bind]
  | merged h =>
      simp only [ensureSessionCreatedFilter, h, hnext, bind, Except.bind]
      cases nextFilter (request.merge _) with
      | error cause => rfl
      | ok result => rfl

/-- To an action whose result is not lost the filters make no difference. -/
theorem AdmittedIn.answer_eq {draws : Set SessionDraw} {sessionSecretKey trackingId : String}
    (h : AdmittedIn composition.sessions draws exchange.draw request sessionSecretKey trackingId
      requestCookies cookies) {action : Request}
    (hhandler : composition.handlerFor exchange requestCookies = .ok (.wizard action))
    (huri : Reference exchange.http.uri.toList) :
    composition.answer exchange request =
      (composition.sessions.answer composition.config (exchange.handling action) request).map
        .wizard := by
  have hnext : (composition.logging exchange requestCookies).result =
      (composition.sessions.runAction composition.config (exchange.handling action)
        requestCookies).map (SimpleResult.map .wizard) := by
    have hchecked := checked_of_ok hhandler
    rw [Composition.handle] at hchecked
    cases hrun : composition.sessions.runAction composition.config (exchange.handling action)
        requestCookies with
    | error cause =>
        rw [hrun] at hchecked
        exact congrArg Effects.Outcome.result (AccessLoggingFilter.apply_of_error hchecked)
    | ok result =>
        rw [hrun] at hchecked
        exact (AccessLoggingFilter.apply_result_iff hchecked).mpr huri
  have hfiltered : (composition.filtered exchange request).result =
      (ensureSessionCreatedFilter composition.sessions.factory exchange.draw
        (composition.sessions.runAction composition.config (exchange.handling action))
        request).map (SimpleResult.map .wizard) :=
    h.passes.result_filtered.2.trans (h.passes.filter_map hnext)
  rw [Composition.answer, Composition.served, hfiltered, Sessions.answer]
  have hdraw : (exchange.handling action).draw = exchange.draw := rfl
  rw [hdraw]
  cases ensureSessionCreatedFilter composition.sessions.factory exchange.draw
      (composition.sessions.runAction composition.config (exchange.handling action)) request with
  | error cause => rfl
  | ok result => rfl

end Reply

end VehiclesOnline
