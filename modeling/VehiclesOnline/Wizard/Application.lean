import VehiclesOnline.Library.Transition
import VehiclesOnline.Wizard.Controllers

/-! The application as the browser meets it, request after request: as it is, with its data in
the cookies of a session, and as the bare machine that keeps the data by cache key. -/

namespace VehiclesOnline

open KeyValue (Assignment assignAll)
open Transition (Machine)

/-- The sessions that the application is configured with. -/
inductive Sessions
  | clearText (cookieFlags : CookieFlags)
  | encrypted (factory : EncryptedClientSideSessionFactory)

inductive SessionKind
  | clearText
  | encrypted
  deriving DecidableEq, Repr

namespace Sessions

def factory : Sessions → ClientSideSessionFactory
  | clearText cookieFlags => clearTextClientSideSessionFactory cookieFlags
  | encrypted factory => factory.toFactory

def kind : Sessions → SessionKind
  | clearText _ => .clearText
  | encrypted _ => .encrypted

end Sessions

/-- The readers of a request that carries the cookies. -/
def RequestCookies.ofJar (factory : ClientSideSessionFactory) (requestCookies : Jar) :
    RequestCookies where
  getModel key := RichCookies.getModel requestCookies factory key.format key.value
  hasCookie key := do
    let session ← factory.getSession requestCookies
    return (requestCookies.get (session.nameCookie key.value)).isSome
  trackingId := RichCookies.trackingId requestCookies factory

/-- A request of the browser, with what the services answer and what the server draws while
it is handled. -/
structure Exchange (joda : Joda) where
  request : Request
  environment : Environment joda
  draw : SessionDraw
  random : CacheKey → SecureRandomBytes

/-- What the browser shows after a request, and the services that were called. -/
structure Reply where
  content : Content
  calls : List ServiceCall

/-! ### With cookies -/

section Cookies

variable (factory : ClientSideSessionFactory) (requestCookies : Jar)

def Edit.apply (random : CacheKey → SecureRandomBytes) (inner : SimpleResult Content) :
    Edit → Except Throwable (SimpleResult Content)
  | withCookie key model =>
      RichSimpleResult.withModel inner requestCookies factory (random key) key.format key.value
        model
  | discardingCookies keys =>
      RichSimpleResult.discardingCookies inner requestCookies factory (keys.map CacheKey.value)
  | discardingCookieNamed key => .ok (inner.discardingCookies [{ name := key.value }])
  | withLang code => .ok (inner.withCookies [{ name := langCookie.name, value := code }])

def redirecting (result : SimpleResult Route) : SimpleResult Content :=
  { content := .redirect result.content, setCookies := result.setCookies }

def Response.build (random : CacheKey → SecureRandomBytes) :
    Response → Except Throwable (SimpleResult Content)
  | result r => r.edits.foldlM (fun inner edit => edit.apply factory requestCookies random inner)
      { content := r.content }
  | discardAllCookies => .ok (redirecting (VehiclesOnline.discardAllCookies requestCookies))

end Cookies

variable {joda : Joda}

namespace Sessions

variable (sessions : Sessions) (config : Config)

/-- The outcome of the action for a request that carries the cookies. -/
def outcome (exchange : Exchange joda) (requestCookies : Jar) : Outcome Response :=
  handle config exchange.environment (.ofJar sessions.factory requestCookies) exchange.request

/-- The action behind the filter. -/
def runAction (exchange : Exchange joda) (requestCookies : Jar) :
    Except Throwable (SimpleResult Content) := do
  let response ← (sessions.outcome config exchange requestCookies).result
  response.build sessions.factory requestCookies exchange.random

/-- The answer to a request: by the action behind the filter, or by the error strategy. -/
def answer (exchange : Exchange joda) (request : Jar) : SimpleResult Content :=
  match ensureSessionCreatedFilter sessions.factory exchange.draw
      (sessions.runAction config exchange) request with
  | .ok result => result
  | .error cause => redirecting (errorStrategy request cause)

/-- The request that the filter passes on. -/
def admitted (draw : SessionDraw) (request : Jar) : Except Throwable Jar := do
  match ← sessions.factory.newSessionCookiesIfNeeded draw request with
  | some cookies => return request.merge cookies
  | none => return request

def calls (exchange : Exchange joda) (request : Jar) : List ServiceCall :=
  match sessions.admitted exchange.draw request with
  | .ok requestCookies => (sessions.outcome config exchange requestCookies).calls
  | .error _ => []

/-- A request of a browser that sends the cookies in its jar, and applies those of the
answer. -/
def serve : Machine Jar (Exchange joda) Reply := fun jar exchange =>
  (jar.receive (sessions.answer config exchange jar).setCookies,
    { content := (sessions.answer config exchange jar).content
      calls := sessions.calls config exchange jar })

/-- What the session of a jar holds, by cache key: nothing where there is no session. -/
def applicationData (jar : Jar) : ApplicationData := fun key =>
  match RichCookies.getModel jar sessions.factory key.format key.value with
  | .ok model => model
  | .error _ => none

end Sessions

/-! ### Without cookies -/

/-- The readers of a request in a session that holds the data. -/
def RequestCookies.ofData (trackingId : String) (data : ApplicationData) : RequestCookies where
  getModel key := .ok (data key)
  hasCookie key := .ok (data key).isSome
  trackingId := .ok trackingId

/-- What an edit means to the data. A cookie that is discarded by the name of its key is that
of the key in sessions of clear text only. -/
def Edit.assignments (kind : SessionKind) : Edit → List (Assignment CacheKey CacheKey.Model)
  | withCookie key model => [⟨key, some model⟩]
  | discardingCookies keys => keys.map fun key => ⟨key, none⟩
  | discardingCookieNamed key =>
      match kind with
      | .clearText => [⟨key, none⟩]
      | .encrypted => []
  | withLang _ => []

/-- The response to an action that raised. -/
def errorResponse (cause : Throwable) : Response :=
  match cause.exceptionClass with
  | .badPaddingException => .discardAllCookies
  | .invalidSessionException => .discardAllCookies
  | _ => .result (.redirect (.error (exceptionDigest cause)))

def settle : Except Throwable Response → Response
  | .ok response => response
  | .error cause => errorResponse cause

namespace Response

def content : Response → Content
  | result r => r.content
  | discardAllCookies => .redirect .beforeYouStart

def edits : Response → List Edit
  | result r => r.edits
  | discardAllCookies => []

def data (kind : SessionKind) (data : ApplicationData) : Response → ApplicationData
  | result r => assignAll data (r.edits.flatMap (Edit.assignments kind))
  | discardAllCookies => fun _ => none

end Response

/-- A request to a session of the tracking id that holds the data. -/
def wizard (kind : SessionKind) (config : Config) (trackingId : String) :
    Machine ApplicationData (Exchange joda) Reply := fun data exchange =>
  let outcome :=
    handle config exchange.environment (.ofData trackingId data) exchange.request
  ((settle outcome.result).data kind data,
    { content := (settle outcome.result).content
      calls := outcome.calls })

/-- Requests to sessions whose tracking ids come with them. -/
def wizardRun (kind : SessionKind) (config : Config) :
    Machine ApplicationData (Exchange joda × String) Reply := fun data input =>
  wizard kind config input.2 data input.1

end VehiclesOnline
